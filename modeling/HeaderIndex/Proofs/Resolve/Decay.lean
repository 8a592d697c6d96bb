import HeaderIndex.Proofs.Resolve.Chain
import HeaderIndex.Proofs.Resolve.Framed

/-!
# Arrays that stand for pointers

An array without a fixed size stands for a pointer to its elements, and resolves like one.  The two
are looked at from different ends: the name of a pointer is looked for from the pointer on, with no
pointers in front, and that of an array from its element on, with one in front.

* `IsUnsizedArrayOf`, `IsPointerTo` — the two types, as the front-end reports them.
* `namedPointer_of_undeclared` — both ends lead to the same name.
* `pointer_answers` — what a pointer is answered by.
* `resolve_decayed` — the array and the pointer have the same answer and leave the same index.
-/

namespace HeaderIndex

/-- An array without a fixed size, spelled as one, with its element type. -/
structure IsUnsizedArrayOf (unit : ParsedUnit) (array element : TypeRef) : Prop where
  kind : (unit.type array).kind.isUnsizedArray = true
  canonical : (unit.type (unit.canonicalType array)).kind = (unit.type array).kind
  element : (unit.type array).element = element

/-- A pointer that is spelled as one, not by the name of a typedef. -/
structure IsPointerTo (unit : ParsedUnit) (pointer target : TypeRef) : Prop where
  kind : (unit.type pointer).kind = .pointer
  undeclared : unit.typeKey pointer = .undeclared
  pointee : (unit.type pointer).pointee = target
  canonical : (unit.type (unit.canonicalType pointer)).kind = .pointer
  canonicalPointee : (unit.type (unit.canonicalType pointer)).pointee = unit.canonicalType target

/-- What a pointer to a value is answered by, with the index that its entity is in. -/
def CType.IsPointerIn (index : Index) : CType → Prop
  | .string => True
  | .entity id => ∃ aggregate, index.entity? id = some (.aggregate aggregate)
  | .pointer _ _ => True
  | _ => False

namespace Resolver

variable {r : Resolver} {array pointer element : TypeRef}

/-! ## Names -/

theorem isEmpty_declaredName (h : r.unit.typeKey pointer = .undeclared) :
    (r.declaredName pointer).isEmpty = true := by
  have hkind : (r.unit.cursorAt (r.unit.type pointer).declaration).kind = .noDeclaration := by
    unfold ParsedUnit.typeKey ParsedUnit.declarationKey at h
    cases hdeclaration : (r.unit.type pointer).declaration with
    | none => rfl
    | some position =>
      by_contra hdeclared
      have hkind : ¬(r.unit.cursor position).kind = .noDeclaration := hdeclared
      simp [hdeclaration, hkind] at h
  unfold declaredName Cursor.name
  rw [if_pos (.inl hkind)]
  rfl

/-- **A pointer without a declaration is named after what it points to, one pointer down.** -/
theorem namedPointer_of_undeclared (h : IsPointerTo r.unit pointer element) :
    r.namedPointer pointer 0 = r.namedPointer element 1 := by
  have hgoes : r.GoesOn pointer := ⟨isEmpty_declaredName h.undeclared, h.kind⟩
  have hname : r.nameBehind r.levels pointer 0 = r.nameBehind r.levels element 1 := by
    calc r.nameBehind r.levels pointer 0
        = r.nameBehind (r.unit.types.size + 1) element 1 := by
          rw [levels, nameBehind_succ, if_pos hgoes, h.pointee]
      _ = r.nameBehind r.levels element 1 :=
          nameBehind_eq_of_lt (Nat.lt_succ_self _) (Nat.lt_add_of_pos_right Nat.two_pos) _ _
  unfold namedPointer
  rw [hname]

/-- A pointer is named after the end of its chain, if there is one. -/
theorem namedPointer_answers (named : TypeRef) (depth : Nat) :
    (∃ n, (∀ m < n, r.GoesOn (r.down m named)) ∧ ¬r.GoesOn (r.down n named) ∧
      r.namedPointer named depth = .ok (.pointer (r.lastName (r.down n named)) (depth + n))) ∨
      (∀ n, r.GoesOn (r.down n named)) ∧ r.namedPointer named depth = .error .endless := by
  by_cases hends : ∃ n, ¬r.GoesOn (r.down n named)
  · obtain ⟨n, hn, hend, hon⟩ := exists_end_le_size hends
    have hlevels : n < r.levels := Nat.lt_of_le_of_lt hn (Nat.lt_add_of_pos_right Nat.two_pos)
    refine .inl ⟨n, hon, hend, ?_⟩
    unfold namedPointer
    rw [nameBehind_of_ends hon hend hlevels]
  · have hendless : ∀ n, r.GoesOn (r.down n named) := by simpa using hends
    refine .inr ⟨hendless, ?_⟩
    unfold namedPointer
    rw [nameBehind_of_endless hendless]

/-! ## Answers -/

/-- Unless it points to a function, where the names are looked for matters only to the name. -/
theorem pointer_congr {named named' pointee : TypeRef} {depth depth' : Nat}
    (hvalue : (r.unit.type pointee).kind.isFunction = false)
    (hname : r.namedPointer named depth = r.namedPointer named' depth') :
    r.pointer named pointee depth = r.pointer named' pointee depth' := by
  funext i
  unfold Resolver.pointer
  simp only [hvalue, hname]
  rfl

/-- A pointer to a value is answered by a string, an aggregate or a name, unless it points to itself
without an end. -/
theorem pointer_answers {pointee : TypeRef}
    (hvalue : (r.unit.type pointee).kind.isFunction = false) (named : TypeRef) (depth : Nat)
    (i : Index) :
    (∃ type, (r.pointer named pointee depth i).1 = .ok type ∧
        type.IsPointerIn (r.pointer named pointee depth i).2) ∨
      ∀ n, r.GoesOn (r.down n named) := by
  rcases namedPointer_answers named depth with ⟨n, _, _, hnamed⟩ | ⟨hendless, _⟩
  · refine .inl ?_
    by_cases hrecord : (r.unit.type pointee).kind = .record
    · rw [pointer_of_record hrecord]
      cases hfound : (r.record? (r.unit.type pointee).declaration i).1 with
      | none => exact ⟨_, hnamed, trivial⟩
      | some id =>
        have haggregate := Index.aggregateAt?_eq_some.1 (record?_eq_some (Prod.ext hfound rfl))
        exact ⟨.entity id, rfl, haggregate.2.2⟩
    · unfold Resolver.pointer
      simp only [hvalue, hrecord, hnamed]
      split
      · exact ⟨.string, rfl, trivial⟩
      · exact ⟨_, rfl, trivial⟩
  · exact .inr hendless

/-- **An array without a size resolves like a pointer to its elements**: to the same string,
aggregate, or pointer of the same name and depth, with the same index after it. -/
theorem resolve_decayed (harray : IsUnsizedArrayOf r.unit array element)
    (hpointer : IsPointerTo r.unit pointer element)
    (hvalue : (r.unit.type (r.unit.canonicalType element)).kind.isFunction = false) (i : Index) :
    r.resolve array i = r.resolve pointer i ∧
      ((∃ type, (r.resolve array i).1 = .ok type ∧ type.IsPointerIn (r.resolve array i).2) ∨
        ∀ n, r.GoesOn (r.down n element)) := by
  have hunsized : (r.unit.type (r.unit.canonicalType array)).kind.isUnsizedArray = true := by
    rw [harray.canonical, harray.kind]
  have helement : (r.elementOf array).element = element := by
    unfold elementOf
    rw [if_pos harray.canonical.symm, harray.element]
  have hdecays : r.resolve array = r.pointer element (r.unit.canonicalType element) 1 := by
    unfold resolve levels
    rw [resolveWithin_of_unsizedArray hunsized, helement]
  have hpoints : r.resolve pointer = r.pointer pointer (r.unit.canonicalType element) 0 := by
    unfold resolve levels
    rw [resolveWithin_of_pointer hpointer.canonical, hpointer.canonicalPointee]
  refine ⟨?_, ?_⟩
  · rw [hdecays, hpoints, pointer_congr hvalue (namedPointer_of_undeclared hpointer)]
  · rw [hdecays]
    exact pointer_answers hvalue element 1 i

/-- `struct widget *[]` and `struct widget **`, with a declaration that is not visible. -/
def hiddenWidget : Resolver where
  unit := { ParsedUnit.empty with
    cursors := #[{ Cursor.missing with kind := .structDecl, spelling := "widget" }]
    types := #[
      { SourceType.missing with
        kind := .incompleteArray, spelling := "struct widget *[]", element := some 2 },
      { SourceType.missing with
        kind := .pointer, spelling := "struct widget **", pointee := some 2 },
      { SourceType.missing with
        kind := .pointer, spelling := "struct widget *", pointee := some 3 },
      { SourceType.missing with
        kind := .record, spelling := "struct widget", declaration := some 0 }] }
  prefixes := []
  visible := []

theorem resolve_decayed_hiddenWidget :
    IsUnsizedArrayOf hiddenWidget.unit (some 0) (some 2) ∧
      IsPointerTo hiddenWidget.unit (some 1) (some 2) ∧
      hiddenWidget.resolve (some 0) .empty =
        (.ok (.pointer ⟨["widget"], some "widget"⟩ 2), .empty) ∧
      hiddenWidget.resolve (some 1) .empty =
        (.ok (.pointer ⟨["widget"], some "widget"⟩ 2), .empty) := by
  have harray : IsUnsizedArrayOf hiddenWidget.unit (some 0) (some 2) := ⟨rfl, rfl, rfl⟩
  have hpointer : IsPointerTo hiddenWidget.unit (some 1) (some 2) := ⟨rfl, rfl, rfl, rfl, rfl⟩
  have hresolved : hiddenWidget.resolve (some 0) .empty =
      (.ok (.pointer ⟨["widget"], some "widget"⟩ 2), .empty) := by decide +kernel
  refine ⟨harray, hpointer, hresolved, ?_⟩
  rw [← (resolve_decayed harray hpointer rfl .empty).1, hresolved]

end Resolver

end HeaderIndex
