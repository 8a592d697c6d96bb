import HeaderIndex.Proofs.Index.Masked
import HeaderIndex.Resolve
import Mathlib.Tactic.SplitIfs

/-!
# Resolving types under other prefixes

Resolving looks at names only to see whether they have words.  So prefixes that leave words of the
same spellings lead to the same types, except for the words in the names of pointers.

* `NamesAlike` — prefixes that leave words of the same names of a unit.
* `Resolver.showing` — what shows of a resolved type and the index after it.
* `Resolver.showing_resolve`, `Resolver.showing_resolveMember` — the same shows under other prefixes,
  from every index that looks the same when masked.
-/

namespace HeaderIndex

/-- A name shows the same under prefixes that leave words of its spelling or not alike. -/
theorem Cursor.masked_name {cursor : Cursor} {prefixes others : List String}
    (h : (Name.split prefixes cursor.spelling).isEmpty =
      (Name.split others cursor.spelling).isEmpty) :
    (cursor.name prefixes).masked = (cursor.name others).masked := by
  unfold name
  split
  · rfl
  · exact Name.masked_eq_iff.2 ⟨rfl, h⟩

/-- Whether the names of a unit have words or not alike under two lists of prefixes. -/
def NamesAlike (unit : ParsedUnit) (prefixes others : List String) : Prop :=
  ∀ position, ((unit.cursor position).name prefixes).masked =
    ((unit.cursor position).name others).masked

namespace Resolver

/-- The resolver with other prefixes. -/
abbrev withPrefixes (r : Resolver) (prefixes : List String) : Resolver := { r with prefixes }

section WithPrefixes

variable (r : Resolver) (prefixes : List String)

@[simp] theorem isVisible_withPrefixes (cursor : Cursor) :
    (r.withPrefixes prefixes).isVisible cursor = r.isVisible cursor := rfl

@[simp] theorem levels_withPrefixes : (r.withPrefixes prefixes).levels = r.levels := rfl

@[simp] theorem elementOf_withPrefixes (reference : TypeRef) :
    (r.withPrefixes prefixes).elementOf reference = r.elementOf reference := rfl

@[simp] theorem endOfPointers_withPrefixes (levels : Nat) (reference : TypeRef) :
    (r.withPrefixes prefixes).endOfPointers levels reference =
      r.endOfPointers levels reference := by
  induction levels generalizing reference with
  | zero => rfl
  | succ levels ih =>
    unfold endOfPointers
    simp only [ih]

end WithPrefixes

/-- What shows of a resolved type, or of the reason why there is none, and of the index after it. -/
def showing (outcome : Except TypeError CType × Index) : Except TypeError CType × Index :=
  (outcome.1.map CType.masked, outcome.2.masked)

/-- Arrays show the same if their elements do. -/
theorem showing_array (count : Int) {first second : Except TypeError CType × Index} :
    showing first = showing second →
      showing (match first with
        | (.ok element, index) => (.ok (.array element count), index)
        | (.error error, index) => (.error error, index)) =
      showing (match second with
        | (.ok element, index) => (.ok (.array element count), index)
        | (.error error, index) => (.error error, index)) := by
  intro h
  rcases first with ⟨_ | element, i⟩ <;> rcases second with ⟨_ | other, j⟩
  all_goals obtain ⟨hresult, hindex⟩ := Prod.mk.inj h
  · exact h
  · cases hresult
  · cases hresult
  · have harray : (CType.array element count).masked = (CType.array other count).masked :=
      congrArg (fun type => CType.array type count) (Except.ok.inj hresult)
    exact Prod.ext (congrArg Except.ok harray) hindex

variable {r : Resolver} {prefixes : List String} {i j : Index}

/-- Entities are found alike when their sort shows. -/
theorem entityOf_eq_of_masked (prefixes : List String) (h : i.masked = j.masked)
    {isSort : Entity → Bool} (hsort : ∀ e, isSort e.masked = isSort e) (type : TypeRef) :
    r.entityOf type isSort i = (r.withPrefixes prefixes).entityOf type isSort j := by
  have hany : ∀ (k : Index) id, (k.masked.entity? id).any isSort = (k.entity? id).any isSort := by
    intro k id
    rw [Index.entity?_masked]
    cases k.entity? id with
    | none => rfl
    | some e => exact hsort e
  show (i.get? (r.unit.typeKey type)).filter _ = (j.get? (r.unit.typeKey type)).filter _
  rw [Index.get?_eq_of_masked h]
  congr 1
  funext id
  rw [← hany i, h, hany j]

section NamesAlike

variable (hnames : NamesAlike r.unit r.prefixes prefixes)
include hnames

theorem masked_nameAt (reference : Option Nat) :
    ((r.unit.cursorAt reference).name r.prefixes).masked =
      ((r.unit.cursorAt reference).name prefixes).masked := by
  cases reference with
  | none => rfl
  | some position => exact hnames position

/-- The walk down a chain of pointers ends at the same place. -/
theorem masked_nameBehind (levels : Nat) (reference : TypeRef) (depth : Nat) :
    (r.nameBehind levels reference depth).map (fun found => (found.1.masked, found.2)) =
      ((r.withPrefixes prefixes).nameBehind levels reference depth).map
        fun found => (found.1.masked, found.2) := by
  induction levels generalizing reference depth with
  | zero => rfl
  | succ levels ih =>
    have hname := masked_nameAt hnames (r.unit.type reference).declaration
    have hempty := (Name.masked_eq_iff.1 hname).2
    unfold nameBehind
    dsimp only [withPrefixes]
    rw [hempty]
    split
    · simp only [Option.map_some, hname]
    split
    · exact ih _ _
    split
    · simp only [Option.map_some, hname]
    · rfl

theorem masked_namedPointer (named : TypeRef) (depth : Nat) :
    (r.namedPointer named depth).map CType.masked =
      ((r.withPrefixes prefixes).namedPointer named depth).map CType.masked := by
  have hbehind := masked_nameBehind hnames r.levels named depth
  unfold namedPointer
  rw [levels_withPrefixes r prefixes]
  cases hfirst : r.nameBehind r.levels named depth with
  | none =>
    rw [hfirst, Option.map_none] at hbehind
    rw [Option.map_eq_none_iff.1 hbehind.symm]
  | some found =>
    rw [hfirst, Option.map_some] at hbehind
    obtain ⟨other, hother, heq⟩ := Option.map_eq_some_iff.1 hbehind.symm
    obtain ⟨hmasked, hdepth⟩ := Prod.mk.inj heq
    simp only [hother, Except.map, CType.masked, hmasked, hdepth]

/-- The same record is found behind a pointer, or the same one is added. -/
theorem masked_record? (h : i.masked = j.masked) (reference : Option Nat) :
    (r.record? reference i).1 = ((r.withPrefixes prefixes).record? reference j).1 ∧
      (r.record? reference i).2.masked =
        ((r.withPrefixes prefixes).record? reference j).2.masked := by
  unfold record?
  dsimp only
  rw [isVisible_withPrefixes r prefixes, Index.contains_eq_of_masked h,
    Index.aggregateAt?_eq_of_masked h]
  split_ifs
  · exact ⟨rfl, h⟩
  · exact ⟨rfl, h⟩
  · have hentity : ∀ isUnion, (Entity.aggregate (.placeholder
        ((r.unit.cursorAt reference).name r.prefixes) isUnion)).masked =
        (Entity.aggregate (.placeholder
          ((r.unit.cursorAt reference).name prefixes) isUnion)).masked := by
      intro isUnion
      simp only [Entity.masked, Aggregate.masked, Aggregate.placeholder,
        masked_nameAt hnames reference]
    obtain ⟨hid, hindex⟩ := Index.add_eq_of_masked h (hentity _) _
    exact ⟨congrArg some hid, hindex⟩
  · exact ⟨rfl, h⟩

theorem showing_namedPointer (h : i.masked = j.masked) (named : TypeRef) (depth : Nat) :
    showing (r.namedPointer named depth, i) =
      showing ((r.withPrefixes prefixes).namedPointer named depth, j) :=
  Prod.ext (masked_namedPointer hnames named depth) h

theorem showing_pointer (h : i.masked = j.masked) (named pointee : TypeRef) (depth : Nat) :
    showing (r.pointer named pointee depth i) =
      showing ((r.withPrefixes prefixes).pointer named pointee depth j) := by
  unfold pointer
  dsimp only
  split_ifs
  · exact Prod.ext rfl h
  · obtain ⟨hid, hindex⟩ := masked_record? hnames h (r.unit.type pointee).declaration
    revert hid hindex
    rcases r.record? (r.unit.type pointee).declaration i with ⟨_ | id, k⟩ <;>
      rcases (r.withPrefixes prefixes).record? (r.unit.type pointee).declaration j with
        ⟨_ | id', l⟩
    all_goals intro hid hindex
    · exact showing_namedPointer hnames hindex named depth
    · cases hid
    · cases hid
    · cases hid
      exact Prod.ext rfl hindex
  · rw [entityOf_eq_of_masked prefixes h (by simp) named]
    split
    · exact Prod.ext rfl h
    · exact showing_namedPointer hnames h named depth
  · exact showing_namedPointer hnames h named depth

theorem showing_resolveWithin (levels : Nat) (h : i.masked = j.masked) (type : TypeRef) :
    showing (r.resolveWithin levels type i) =
      showing ((r.withPrefixes prefixes).resolveWithin levels type j) := by
  induction levels generalizing type with
  | zero => exact Prod.ext rfl h
  | succ levels ih =>
    unfold resolveWithin
    simp only [elementOf_withPrefixes]
    split_ifs
    · exact Prod.ext rfl h
    · exact showing_pointer hnames h _ _ _
    · exact showing_pointer hnames h _ _ _
    · rw [entityOf_eq_of_masked prefixes h (by simp)]
      split <;> exact Prod.ext rfl h
    · rw [entityOf_eq_of_masked prefixes h (by simp)]
      split <;> exact Prod.ext rfl h
    · exact showing_array (r.elementOf type).count (ih (r.elementOf type).element)
    · exact Prod.ext rfl h
    · exact Prod.ext rfl h

/-- **The same types are found under other prefixes.** -/
theorem showing_resolve (h : i.masked = j.masked) (type : TypeRef) :
    showing (r.resolve type i) = showing ((r.withPrefixes prefixes).resolve type j) :=
  showing_resolveWithin hnames _ h type

theorem showing_resolveMember (h : i.masked = j.masked) (type : TypeRef) :
    showing (r.resolveMember type i) =
      showing ((r.withPrefixes prefixes).resolveMember type j) := by
  unfold resolveMember
  split_ifs
  · exact showing_array 0 (showing_resolve hnames h (r.elementOf type).element)
  · exact showing_resolve hnames h type

end NamesAlike

end Resolver

end HeaderIndex
