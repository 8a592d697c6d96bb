import HeaderIndex.Proofs.Index.Growth
import HeaderIndex.Resolve

/-!
# What resolving does to an index

* `Resolver.Mentions` — the index after resolving is the one before it, or has one placeholder more:
  for a structure or union of a visible file whose key was free.
* `mentions_resolve`, `mentions_resolveMember` — resolving does no more than that, also where it has
  no answer.
* `record?_eq_some` — the aggregate behind a pointer is the one under the key of its declaration.
-/

namespace HeaderIndex

namespace Resolver

/-- What mentioning a type may do to an index. -/
inductive Mentions (r : Resolver) (index : Index) : Index → Prop
  /-- the index stays as it is -/
  | nothing : Mentions r index index
  /-- a record that is declared in a visible file is put into the index as a placeholder -/
  | placeholder {type : TypeRef} {position : Nat}
      (record : (r.unit.type type).kind = .record)
      (declared : (r.unit.type type).declaration = some position)
      (present : (r.unit.cursor position).kind ≠ .noDeclaration)
      (free : index.lookup (.type (r.unit.canonicalCursor position)) = none)
      (visible : r.isVisible (r.unit.cursor position) = true) :
      Mentions r index
        (index.add (.type (r.unit.canonicalCursor position)) (.aggregate (.placeholder
          ((r.unit.cursor position).name r.prefixes)
          ((r.unit.cursor position).kind = .unionDecl)))).2

variable {r : Resolver} {i j : Index}

theorem Mentions.growsTo (h : r.Mentions i j) : i.GrowsTo j := by
  cases h with
  | nothing => exact .refl i
  | placeholder => exact i.growsTo_add _ _

/-- The key of a declaration that there is. -/
theorem declarationKey_eq {unit : ParsedUnit} {reference : Option Nat}
    (h : unit.declarationKey reference ≠ .undeclared) :
    ∃ position, reference = some position ∧ (unit.cursor position).kind ≠ .noDeclaration ∧
      unit.declarationKey reference = .type (unit.canonicalCursor position) := by
  cases reference with
  | none => exact absurd rfl h
  | some position =>
    by_cases hk : (unit.cursor position).kind = .noDeclaration
    · exact absurd (by simp [ParsedUnit.declarationKey, hk]) h
    · exact ⟨position, rfl, hk, by simp [ParsedUnit.declarationKey, hk]⟩

/-- The key of a type is never that of a function or a macro. -/
theorem typeKey_cases (unit : ParsedUnit) (type : TypeRef) :
    unit.typeKey type = .undeclared ∨ ∃ position, unit.typeKey type = .type position := by
  by_cases h : unit.typeKey type = .undeclared
  · exact .inl h
  · obtain ⟨position, _, _, hk⟩ := declarationKey_eq h
    exact .inr ⟨_, hk⟩

/-- Whether the type of each structure, union, enumeration and typedef is declared by the same
declarations as this one. -/
def DeclaresTypes (unit : ParsedUnit) : Prop :=
  ∀ position, (unit.cursor position).kind.isTag = true ∨ (unit.cursor position).kind = .typedefDecl →
    unit.typeKey (unit.cursor position).type = .type (unit.canonicalCursor position)

/-- The promise is about the rows of the table: what is not in it declares nothing. -/
theorem DeclaresTypes.of_rows {unit : ParsedUnit} (h : ∀ position < unit.cursors.size,
    (unit.cursor position).kind.isTag = true ∨ (unit.cursor position).kind = .typedefDecl →
      unit.typeKey (unit.cursor position).type = .type (unit.canonicalCursor position)) :
    DeclaresTypes unit := by
  intro position hkind
  rcases Nat.lt_or_ge position unit.cursors.size with hlt | hge
  · exact h position hlt hkind
  · rw [ParsedUnit.cursor_of_size_le hge] at hkind
    rcases hkind with hkind | hkind <;> cases hkind

theorem mentions_record? {type : TypeRef} {reference : Option Nat}
    (record : (r.unit.type type).kind = .record)
    (declared : (r.unit.type type).declaration = reference) (i : Index) :
    r.Mentions i (r.record? reference i).2 := by
  unfold record?
  dsimp only
  split
  · exact .nothing
  · rename_i hk
    obtain ⟨position, rfl, hp, he⟩ := declarationKey_eq hk
    rw [he]
    split
    · exact .nothing
    · rename_i hc
      split
      · rename_i hv
        exact .placeholder record declared hp (by simpa [Index.contains] using hc) hv
      · exact .nothing

/-- What is found behind a pointer stands under the key of its declaration. -/
theorem record?_eq_some {reference : Option Nat} {id : EntityId}
    (h : r.record? reference i = (some id, j)) :
    j.aggregateAt? (r.unit.declarationKey reference) = some id := by
  unfold record? at h
  dsimp only at h
  split at h
  · cases h
  · rename_i hk
    split at h
    · obtain ⟨ha, rfl⟩ := Prod.mk.inj h
      exact ha
    · rename_i hc
      split at h
      · have hfree : i.lookup (r.unit.declarationKey reference) = none := by
          simpa [Index.contains] using hc
        obtain ⟨hid, rfl⟩ := Prod.mk.inj h
        obtain rfl := Option.some.inj hid
        exact Index.aggregateAt?_eq_some.2
          ⟨hk, Index.lookup_add_self .., _, Index.entity?_add_of_free hfree _⟩
      · cases h

theorem mentions_pointer (named pointee : TypeRef) (depth : Nat) (i : Index) :
    r.Mentions i (r.pointer named pointee depth i).2 := by
  unfold pointer
  dsimp only
  split
  · exact .nothing
  · split
    · rename_i hk
      have h := mentions_record? hk rfl i
      split <;> simp_all
    · split
      · split <;> exact .nothing
      · exact .nothing

theorem mentions_resolveWithin (levels : Nat) (type : TypeRef) (i : Index) :
    r.Mentions i (r.resolveWithin levels type i).2 := by
  induction levels generalizing type with
  | zero => exact .nothing
  | succ levels ih =>
    unfold resolveWithin
    dsimp only
    split
    · exact .nothing
    split
    · exact mentions_pointer ..
    split
    · exact mentions_pointer ..
    split
    · split <;> exact .nothing
    split
    · split <;> exact .nothing
    split
    · have h := ih (r.elementOf type).element
      split <;> simp_all
    split <;> exact .nothing

/-- **Resolving changes an index at most by a placeholder.** -/
theorem mentions_resolve (type : TypeRef) (i : Index) : r.Mentions i (r.resolve type i).2 :=
  mentions_resolveWithin ..

theorem mentions_resolveMember (type : TypeRef) (i : Index) :
    r.Mentions i (r.resolveMember type i).2 := by
  unfold resolveMember
  split
  · have h := mentions_resolve (r := r) (r.elementOf type).element i
    split <;> simp_all
  · exact mentions_resolve type i

end Resolver

end HeaderIndex
