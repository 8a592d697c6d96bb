import HeaderIndex.Proofs.Resolve.Arrays

/-!
# Names of pointees

A pointer that no entity stands for is named after the end of its chain: after the first type on the
way that is declared under a name, or else after the category of the type where the chain ends.  Only
a type that the front-end does not expose has no word for its category, and leaves a pointer without
a name.

* `NamedAfter` — how the end of a chain gives a name.
* `namedAfter_lastName` — every chain that ends gives one in that way.
* `resolve_pointee` — so the pointers that types resolve to are named, through all dimensions.
-/

namespace HeaderIndex

/-- The word for a category has a fragment. -/
theorem TypeKind.isEmpty_split_spelling (kind : TypeKind) :
    (Name.split [] kind.spelling).isEmpty = false := by
  cases kind <;> decide +kernel

namespace Resolver

variable {r : Resolver} {type start : TypeRef} {counts : List Int} {name : Name} {depth n : Nat}

/-- A name given by the end of the chain of pointers from a type on, so many levels down. -/
structure NamedAfter (r : Resolver) (start : TypeRef) (n : Nat) (name : Name) : Prop where
  /-- the levels above the end are pointers without a declared name -/
  on (m : Nat) (h : m < n) : r.GoesOn (r.down m start)
  /-- the end is declared under a name, or is no pointer -/
  stop : ¬r.GoesOn (r.down n start)
  /-- a declared name at the end is the name -/
  declared (h : (r.declaredName (r.down n start)).isEmpty = false) :
    name = r.declaredName (r.down n start)
  /-- where no level has one, the name is the word for the category of an exposed end -/
  spelled (h : ∀ m ≤ n, (r.declaredName (r.down m start)).isEmpty = true)
    (exposed : (r.unit.type (r.down n start)).kind ≠ .unexposed) :
    name = Name.split [] (r.unit.type (r.down n start)).kind.spelling
  /-- the name has no fragments just if no level has one and the end is not exposed -/
  nameless : name.parts = [] ↔
    (∀ m ≤ n, (r.declaredName (r.down m start)).isEmpty = true) ∧
      (r.unit.type (r.down n start)).kind = .unexposed

/-- The levels of a chain have no declared name just if its end has none. -/
theorem isEmpty_levels_iff (hon : ∀ m < n, r.GoesOn (r.down m start)) :
    (∀ m ≤ n, (r.declaredName (r.down m start)).isEmpty = true) ↔
      (r.declaredName (r.down n start)).isEmpty = true := by
  constructor
  · intro h
    exact h n le_rfl
  · intro h m hm
    rcases hm.lt_or_eq with hlt | rfl
    · exact (hon m hlt).1
    · exact h

theorem lastName_of_declared (h : (r.declaredName type).isEmpty = false) :
    r.lastName type = r.declaredName type :=
  if_pos (.inl h)

theorem lastName_of_spelled (h : (r.declaredName type).isEmpty = true)
    (exposed : (r.unit.type type).kind ≠ .unexposed) :
    r.lastName type = Name.split [] (r.unit.type type).kind.spelling :=
  if_neg (by simp [h, exposed])

/-- **The end of a chain gives no fragments only if it has no name and is not exposed.** -/
theorem isEmpty_lastName (r : Resolver) (type : TypeRef) :
    (r.lastName type).isEmpty = true ↔
      (r.declaredName type).isEmpty = true ∧ (r.unit.type type).kind = .unexposed := by
  by_cases hdeclared : (r.declaredName type).isEmpty = true
  · by_cases hexposed : (r.unit.type type).kind = .unexposed
    · have hlast : r.lastName type = r.declaredName type := if_pos (.inr hexposed)
      simp [hlast, hdeclared, hexposed]
    · rw [lastName_of_spelled hdeclared hexposed]
      simp [TypeKind.isEmpty_split_spelling, hexposed]
  · rw [lastName_of_declared (by simpa using hdeclared)]
    simp [hdeclared]

theorem namedAfter_lastName (hon : ∀ m < n, r.GoesOn (r.down m start))
    (hend : ¬r.GoesOn (r.down n start)) :
    r.NamedAfter start n (r.lastName (r.down n start)) where
  on := hon
  stop := hend
  declared := lastName_of_declared
  spelled h exposed := lastName_of_spelled (h n le_rfl) exposed
  nameless := by
    rw [isEmpty_levels_iff hon, ← isEmpty_lastName, Name.isEmpty, List.isEmpty_iff]

/-- **The pointers that types resolve to are named after the ends of their chains**, alone or in
arrays: after a declared name, or after the category of an exposed type.  A name without fragments
always stands for a type that is not exposed. -/
theorem resolve_pointee {i : Index}
    (h : (r.resolve type i).1 = .ok (CType.arrays counts (.pointer name depth))) :
    ∃ bottom start front n, ArrayOf r.unit type counts bottom ∧ r.NamedFrom bottom start front ∧
      depth = front + n ∧ r.NamedAfter start n name := by
  rcases r.exists_arrayOf type with ⟨counts', bottom, hdimensions⟩ | ⟨_, hendless⟩
  · rw [resolve_eq_of_arrayOf hdimensions] at h
    rcases resolve_bottom (walk_of_arrayOf hdimensions).2.2 i with
      ⟨_, hrefused⟩ | ⟨_, ⟨start, front, hfrom, hnamed⟩ | ⟨found, hfound, hflat, hother⟩⟩
    · rw [hrefused] at h
      cases h
    · dsimp only at h
      rw [hnamed] at h
      rcases namedPointer_answers start front with ⟨n, hon, hend, hname⟩ | ⟨_, hname⟩
      · rw [hname] at h
        obtain ⟨rfl, hpointer⟩ := CType.arrays_inj rfl rfl (Except.ok.inj h)
        obtain ⟨rfl, rfl⟩ := CType.pointer.inj hpointer
        exact ⟨bottom, start, front, n, hdimensions, hfrom, rfl, namedAfter_lastName hon hend⟩
      · rw [hname] at h
        cases h
    · dsimp only at h
      rw [hfound] at h
      obtain ⟨_, hpointer⟩ := CType.arrays_inj hflat rfl (Except.ok.inj h)
      exact absurd hpointer (hother _ _)
  · rw [hendless i] at h
    cases h

/-- `void *[2]` and `void (*)(int)`, whose parenthesized target is not exposed. -/
def plainPointers : Resolver where
  unit := { ParsedUnit.empty with
    types := #[
      { SourceType.missing with
        kind := .constantArray, spelling := "void *[2]", element := some 1, count := 2 },
      { SourceType.missing with kind := .pointer, spelling := "void *", pointee := some 2 },
      { SourceType.missing with kind := .void, spelling := "void" },
      { SourceType.missing with
        kind := .pointer, spelling := "void (*)(int)", pointee := some 4, canonical := some 5 },
      { SourceType.missing with
        kind := .unexposed, spelling := "void (int)", canonical := some 6 },
      { SourceType.missing with kind := .pointer, spelling := "void (*)(int)", pointee := some 6 },
      { SourceType.missing with kind := .functionPrototype, spelling := "void (int)" }] }
  prefixes := []
  visible := []

theorem resolve_pointee_void :
    (plainPointers.resolve (some 0) .empty).1 =
        .ok (CType.arrays [2] (.pointer ⟨["void"], some "Void"⟩ 1)) ∧
      ∃ bottom start front n, ArrayOf plainPointers.unit (some 0) [2] bottom ∧
        plainPointers.NamedFrom bottom start front ∧ 1 = front + n ∧
        plainPointers.NamedAfter start n ⟨["void"], some "Void"⟩ := by
  have hresolved : (plainPointers.resolve (some 0) .empty).1 =
      .ok (CType.arrays [2] (.pointer ⟨["void"], some "Void"⟩ 1)) := by decide +kernel
  exact ⟨hresolved, resolve_pointee hresolved⟩

/-- **A pointer to a function may have no name**: what it points to is not exposed, though there is a
word for that category too. -/
theorem resolve_function_nameless :
    (plainPointers.resolve (some 3) .empty).1 = .ok (.pointer .anonymous 1) ∧
      (plainPointers.unit.type (plainPointers.down 1 (some 3))).kind = .unexposed ∧
      Name.anonymous.parts = [] ∧
      Name.split [] TypeKind.unexposed.spelling = ⟨["unexposed"], some "Unexposed"⟩ := by
  decide +kernel

end Resolver

end HeaderIndex
