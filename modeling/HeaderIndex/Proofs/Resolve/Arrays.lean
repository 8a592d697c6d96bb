import HeaderIndex.Proofs.Resolve.Decay

/-!
# Arrays of arrays

An array with a size resolves to one with the same size, of what its elements resolve to.  So a type
resolves through all of its dimensions to what the type at the bottom resolves to, and has no
counterpart exactly if that has none.

* `ArrayOf` — the dimensions of a type and the type at the bottom.
* `hasCounterpart` — the categories of types that have a counterpart, arrays with a size apart.
* `NamedFrom` — where the name of a pointer is looked for.
* `resolve_eq_of_arrayOf` — a type resolves through its dimensions, of which there are never more than
  rows in the table (`length_le_of_arrayOf`).
* `exists_arrayOf` — unless they have no end, there is a type at the bottom.
* `resolve_bottom` — what resolves at the bottom, and to what.
* `resolve_arrayOf` — what resolves through any dimensions, and to what.
-/

namespace HeaderIndex

/-- The type that is nested in an array once for each of some sizes, the first one outside. -/
def CType.arrays (counts : List Int) (element : CType) : CType :=
  counts.foldr (fun count type => .array type count) element

/-- Whether a type is an array of a fixed size. -/
def CType.isArray : CType → Bool
  | .array _ _ => true
  | _ => false

/-- What is no array is nested in arrays in one way only. -/
theorem CType.arrays_inj {element element' : CType} (h : element.isArray = false)
    (h' : element'.isArray = false) {counts counts' : List Int}
    (heq : CType.arrays counts element = CType.arrays counts' element') :
    counts = counts' ∧ element = element' := by
  induction counts generalizing counts' with
  | nil =>
    cases counts' with
    | nil => exact ⟨rfl, heq⟩
    | cons count counts' =>
      obtain rfl : element = _ := heq
      cases h
  | cons count counts ih =>
    cases counts' with
    | nil =>
      obtain rfl : _ = element' := heq
      cases h'
    | cons count' counts' =>
      obtain ⟨helements, rfl⟩ := CType.array.inj heq
      obtain ⟨rfl, rfl⟩ := ih helements
      exact ⟨rfl, rfl⟩

/-- The categories of types that have a counterpart themselves, not by what they are made of. -/
def TypeKind.hasCounterpart (kind : TypeKind) : Bool :=
  kind.isPrimitive || kind = .pointer || kind.isUnsizedArray || kind = .record || kind = .enum ||
    kind = .unexposed

/-- The dimensions of a type and the first type below them that is no array with a size. -/
inductive ArrayOf (unit : ParsedUnit) : TypeRef → List Int → TypeRef → Prop
  /-- what is no array with a size has no dimensions -/
  | bottom {type : TypeRef}
      (value : (unit.type (unit.canonicalType type)).kind ≠ .constantArray) :
      ArrayOf unit type [] type
  /-- an array that is spelled as one has its elements as they are spelled -/
  | spelled {type bottom : TypeRef} {counts : List Int}
      (array : (unit.type (unit.canonicalType type)).kind = .constantArray)
      (kind : (unit.type type).kind = .constantArray)
      (elements : ArrayOf unit (unit.type type).element counts bottom) :
      ArrayOf unit type ((unit.type type).count :: counts) bottom
  /-- an array behind a typedef has the elements of its canonical form -/
  | hidden {type bottom : TypeRef} {counts : List Int}
      (array : (unit.type (unit.canonicalType type)).kind = .constantArray)
      (kind : (unit.type type).kind ≠ .constantArray)
      (elements :
        ArrayOf unit (unit.type (unit.canonicalType type)).element counts bottom) :
      ArrayOf unit type ((unit.type (unit.canonicalType type)).count :: counts) bottom

namespace Resolver

variable {r : Resolver} {type bottom : TypeRef} {counts : List Int} {levels : Nat}

/-- Where the name of a pointer is looked for, and how many pointers are in front of it: at the pointer
itself, or at the element of an array without a size. -/
inductive NamedFrom (r : Resolver) (type : TypeRef) : TypeRef → Nat → Prop
  | pointer (kind : (r.unit.type (r.unit.canonicalType type)).kind = .pointer) :
      NamedFrom r type type 0
  | unsized (kind : (r.unit.type (r.unit.canonicalType type)).kind.isUnsizedArray = true) :
      NamedFrom r type (r.elementOf type).element 1

/-! ## Through the dimensions -/

theorem elementOf_of_kind (h : (r.unit.type type).kind =
    (r.unit.type (r.unit.canonicalType type)).kind) : r.elementOf type = r.unit.type type :=
  if_pos h

theorem elementOf_of_kind_ne (h : (r.unit.type type).kind ≠
    (r.unit.type (r.unit.canonicalType type)).kind) :
    r.elementOf type = r.unit.type (r.unit.canonicalType type) :=
  if_neg h

/-- One level, whichever way the array is spelled. -/
theorem arrayOf_cons (array : (r.unit.type (r.unit.canonicalType type)).kind = .constantArray)
    (elements : ArrayOf r.unit (r.elementOf type).element counts bottom) :
    ArrayOf r.unit type ((r.elementOf type).count :: counts) bottom := by
  by_cases hkind : (r.unit.type type).kind = .constantArray
  · rw [elementOf_of_kind (hkind.trans array.symm)] at elements ⊢
    exact .spelled array hkind elements
  · rw [elementOf_of_kind_ne fun heq => hkind (heq.trans array)] at elements ⊢
    exact .hidden array hkind elements

/-- Induction on the dimensions of a type, whichever way each array is spelled. -/
theorem ArrayOf.rec_elementOf
    {motive : ∀ {type bottom counts}, ArrayOf r.unit type counts bottom → Prop}
    (base : ∀ {type} (value : (r.unit.type (r.unit.canonicalType type)).kind ≠ .constantArray),
      motive (.bottom value))
    (level : ∀ {type bottom counts}
      (array : (r.unit.type (r.unit.canonicalType type)).kind = .constantArray)
      (elements : ArrayOf r.unit (r.elementOf type).element counts bottom),
      motive elements → motive (arrayOf_cons array elements))
    (h : ArrayOf r.unit type counts bottom) : motive h := by
  induction h with
  | bottom value => exact base value
  | spelled array kind elements ih =>
    have heq := elementOf_of_kind (kind.trans array.symm)
    have hlevel := level array (heq ▸ elements)
    simp only [heq] at hlevel
    exact hlevel ih
  | hidden array kind elements ih =>
    have heq := elementOf_of_kind_ne fun heq => kind (heq.trans array)
    have hlevel := level array (heq ▸ elements)
    simp only [heq] at hlevel
    exact hlevel ih

/-- Whether a type is an array with a size, spelled as one or not. -/
def IsArray (r : Resolver) (type : TypeRef) : Prop :=
  (r.unit.type (r.unit.canonicalType type)).kind = .constantArray

/-- The type that is reached by going from arrays to their elements a number of times. -/
def inner (r : Resolver) (n : Nat) (type : TypeRef) : TypeRef :=
  (fun type => (r.elementOf type).element)^[n] type

/-- Only the rows of the table are arrays. -/
theorem IsArray.exists_row (h : r.IsArray type) : ∃ row < r.unit.types.size, type = some row := by
  cases type with
  | none => cases h
  | some row =>
    refine ⟨row, ?_, rfl⟩
    apply Nat.lt_of_not_le
    intro hsize
    have hmissing := ParsedUnit.type_of_size_le hsize
    have hcanonical : r.unit.canonicalType (some row) = some row := by
      unfold ParsedUnit.canonicalType
      rw [hmissing]
      rfl
    unfold IsArray at h
    rw [hcanonical, hmissing] at h
    cases h

/-- The walk down the dimensions of a type: through arrays, up to what is none. -/
theorem walk_of_arrayOf (h : ArrayOf r.unit type counts bottom) :
    (∀ m < counts.length, r.IsArray (r.inner m type)) ∧ r.inner counts.length type = bottom ∧
      ¬r.IsArray bottom := by
  induction h using ArrayOf.rec_elementOf with
  | base value => exact ⟨fun m hm => absurd hm m.not_lt_zero, rfl, value⟩
  | level array _ ih =>
    obtain ⟨hon, hlast, hend⟩ := ih
    refine ⟨?_, hlast, hend⟩
    intro m hm
    cases m with
    | zero => exact array
    | succ m => exact hon m (Nat.lt_of_succ_lt_succ hm)

/-- **A type has at most as many dimensions as there are rows in the table.** -/
theorem length_le_of_arrayOf (h : ArrayOf r.unit type counts bottom) :
    counts.length ≤ r.unit.types.size := by
  obtain ⟨hon, hlast, hend⟩ := walk_of_arrayOf h
  have hends : ∃ n, ¬r.IsArray (r.inner n type) := ⟨counts.length, by rwa [hlast]⟩
  obtain ⟨n, hn, hfirst, _⟩ := exists_end_le (fun _ array => array.exists_row) hends
  have hlength : counts.length ≤ n := by
    apply Nat.le_of_not_lt
    intro hlt
    exact hfirst (hon n hlt)
  exact hlength.trans hn

theorem resolveWithin_of_arrayOf (h : ArrayOf r.unit type counts bottom) (levels : Nat) (i : Index) :
    r.resolveWithin (levels + counts.length) type i =
      ((r.resolveWithin levels bottom i).1.map (CType.arrays counts),
        (r.resolveWithin levels bottom i).2) := by
  induction h using ArrayOf.rec_elementOf with
  | @base type _ =>
    have hkeep : ∀ answer : Except TypeError CType, answer.map (CType.arrays []) = answer := by
      rintro (_ | _) <;> rfl
    rw [hkeep]
    rfl
  | @level type bottom counts array _ ih =>
    rw [List.length_cons, ← Nat.add_assoc, resolveWithin_of_constantArray array]
    dsimp only
    rw [ih]
    cases (r.resolveWithin levels bottom i).1 <;> rfl

/-- What is no array with a size resolves at the first level. -/
theorem resolveWithin_succ_of_ne_constantArray
    (h : (r.unit.type (r.unit.canonicalType type)).kind ≠ .constantArray) (levels levels' : Nat) :
    r.resolveWithin (levels + 1) type = r.resolveWithin (levels' + 1) type := by
  funext i
  simp only [resolveWithin, if_neg h]

/-- **A type resolves through its dimensions to what the type at the bottom resolves to.** -/
theorem resolve_eq_of_arrayOf (h : ArrayOf r.unit type counts bottom) (i : Index) :
    r.resolve type i =
      ((r.resolve bottom i).1.map (CType.arrays counts), (r.resolve bottom i).2) := by
  have hlength := length_le_of_arrayOf h
  have hlevels : r.levels = (r.unit.types.size - counts.length + 1) + 1 + counts.length := by
    unfold levels
    omega
  have hbottom : r.resolve bottom =
      r.resolveWithin (r.unit.types.size - counts.length + 1 + 1) bottom :=
    resolveWithin_succ_of_ne_constantArray (walk_of_arrayOf h).2.2 _ _
  unfold resolve at hbottom ⊢
  rw [hbottom, hlevels]
  exact resolveWithin_of_arrayOf h _ i

/-- **A type has a bottom, or its dimensions have no end** and it contains itself. -/
theorem exists_arrayOf (r : Resolver) (type : TypeRef) :
    (∃ counts bottom, ArrayOf r.unit type counts bottom) ∨
      (∀ n, r.IsArray (r.inner n type)) ∧ ∀ i, r.resolve type i = (.error .endless, i) := by
  by_cases hends : ∃ n, ¬r.IsArray (r.inner n type)
  · obtain ⟨n, hend⟩ := hends
    refine .inl ?_
    induction n generalizing type with
    | zero => exact ⟨[], type, .bottom hend⟩
    | succ n ih =>
      by_cases array : r.IsArray type
      · obtain ⟨counts, bottom, elements⟩ := ih _ hend
        exact ⟨_, bottom, arrayOf_cons array elements⟩
      · exact ⟨[], type, .bottom array⟩
  · have hendless : ∀ n, r.IsArray (r.inner n type) := by simpa using hends
    refine .inr ⟨hendless, ?_⟩
    intro i
    clear hends
    unfold resolve
    induction r.levels generalizing type with
    | zero => rfl
    | succ levels ih =>
      have harray : r.IsArray type := hendless 0
      rw [resolveWithin_of_constantArray harray]
      dsimp only
      rw [ih _ fun n => hendless (n + 1)]
      rfl

/-! ## At the bottom -/

/-- A pointer is answered by a string, by an entity, or by a name. -/
theorem pointer_cases (named pointee : TypeRef) (depth : Nat) (i : Index) :
    (r.pointer named pointee depth i).1 = .ok .string ∨
      (∃ id, (r.pointer named pointee depth i).1 = .ok (.entity id)) ∨
      (r.pointer named pointee depth i).1 = r.namedPointer named depth := by
  by_cases hrecord : (r.unit.type pointee).kind = .record
  · rw [pointer_of_record hrecord]
    cases (r.record? (r.unit.type pointee).declaration i).1 with
    | some id => exact .inr (.inl ⟨id, rfl⟩)
    | none => exact .inr (.inr rfl)
  · unfold pointer
    simp only [if_neg hrecord]
    split
    · exact .inl rfl
    · split
      · split
        · exact .inr (.inl ⟨_, rfl⟩)
        · exact .inr (.inr rfl)
      · exact .inr (.inr rfl)

/-- What a type other than an array with a size resolves to. -/
theorem resolve_bottom (value : (r.unit.type (r.unit.canonicalType bottom)).kind ≠ .constantArray)
    (i : Index) :
    (r.unit.type (r.unit.canonicalType bottom)).kind.hasCounterpart = false ∧
        r.resolve bottom i =
          (.error (.unsupported (r.unit.type (r.unit.canonicalType bottom)).kind.spelling
            (r.unit.type bottom).spelling), i) ∨
      (r.unit.type (r.unit.canonicalType bottom)).kind.hasCounterpart = true ∧
        ((∃ start front, r.NamedFrom bottom start front ∧
            (r.resolve bottom i).1 = r.namedPointer start front) ∨
          ∃ found, (r.resolve bottom i).1 = .ok found ∧ found.isArray = false ∧
            ∀ name depth, found ≠ .pointer name depth) := by
  by_cases hpointer : (r.unit.type (r.unit.canonicalType bottom)).kind = .pointer
  · refine .inr ⟨by simp [TypeKind.hasCounterpart, hpointer], ?_⟩
    unfold resolve levels
    rw [resolveWithin_of_pointer hpointer]
    rcases r.pointer_cases bottom _ 0 i with hstring | ⟨id, hentity⟩ | hnamed
    · exact .inr ⟨_, hstring, rfl, by simp⟩
    · exact .inr ⟨_, hentity, rfl, by simp⟩
    · exact .inl ⟨_, _, .pointer hpointer, hnamed⟩
  by_cases hunsized : (r.unit.type (r.unit.canonicalType bottom)).kind.isUnsizedArray = true
  · refine .inr ⟨by simp [TypeKind.hasCounterpart, hunsized], ?_⟩
    unfold resolve levels
    rw [resolveWithin_of_unsizedArray hunsized]
    rcases r.pointer_cases (r.elementOf bottom).element _ 1 i with hstring | ⟨id, hentity⟩ | hnamed
    · exact .inr ⟨_, hstring, rfl, by simp⟩
    · exact .inr ⟨_, hentity, rfl, by simp⟩
    · exact .inl ⟨_, _, .unsized hunsized, hnamed⟩
  unfold resolve levels resolveWithin TypeKind.hasCounterpart
  simp only [if_neg hpointer, if_neg hunsized, if_neg value]
  split
  · exact .inr ⟨by simp [*], .inr ⟨_, rfl, rfl, by simp⟩⟩
  split
  · refine .inr ⟨by simp [*], .inr ?_⟩
    split <;> exact ⟨_, rfl, rfl, by simp⟩
  split
  · refine .inr ⟨by simp [*], .inr ?_⟩
    split <;> exact ⟨_, rfl, rfl, by simp⟩
  split
  · exact .inr ⟨by simp [*], .inr ⟨_, rfl, rfl, by simp⟩⟩
  · exact .inl ⟨by simp [*], rfl⟩

/-- What is at the bottom is answered if it is of a category with a counterpart, unless it is a pointer
to itself. -/
theorem answer_of_hasCounterpart
    (value : (r.unit.type (r.unit.canonicalType bottom)).kind ≠ .constantArray)
    (h : (r.unit.type (r.unit.canonicalType bottom)).kind.hasCounterpart = true) (i : Index) :
    (∃ found, (r.resolve bottom i).1 = .ok found) ∨
      (r.resolve bottom i).1 = .error .endless ∧
        ∃ start front, r.NamedFrom bottom start front ∧ ∀ n, r.GoesOn (r.down n start) := by
  rcases resolve_bottom value i with
    ⟨hnone, _⟩ | ⟨_, ⟨start, front, hfrom, hnamed⟩ | ⟨found, hfound, _⟩⟩
  · rw [hnone] at h
    cases h
  · rcases namedPointer_answers start front with ⟨n, _, _, hname⟩ | ⟨hendless, hname⟩
    · exact .inl ⟨_, hnamed.trans hname⟩
    · exact .inr ⟨hnamed.trans hname, start, front, hfrom, hendless⟩
  · exact .inl ⟨found, hfound⟩

/-- What is refused at the bottom is refused for every array of it, in the same words. -/
theorem resolve_of_unsupported (h : ArrayOf r.unit type counts bottom)
    (hnone : (r.unit.type (r.unit.canonicalType bottom)).kind.hasCounterpart = false) (i : Index) :
    r.resolve type i =
      (.error (.unsupported (r.unit.type (r.unit.canonicalType bottom)).kind.spelling
        (r.unit.type bottom).spelling), i) := by
  rcases resolve_bottom (walk_of_arrayOf h).2.2 i with ⟨_, hrefused⟩ | ⟨hsome, _⟩
  · rw [resolve_eq_of_arrayOf h, hrefused]
    rfl
  · rw [hnone] at hsome
    cases hsome

/-- **What a type resolves to through its dimensions.**  It has no counterpart exactly if what is at the
bottom has none, whatever pointers point to on the way; otherwise it is the array of those dimensions
of what is at the bottom, for which there is an answer unless it is a pointer to itself. -/
theorem resolve_arrayOf (h : ArrayOf r.unit type counts bottom) (i : Index) :
    ((∃ kind spelling, (r.resolve type i).1 = .error (.unsupported kind spelling)) ↔
        (r.unit.type (r.unit.canonicalType bottom)).kind.hasCounterpart = false) ∧
      ((r.unit.type (r.unit.canonicalType bottom)).kind.hasCounterpart = false →
        r.resolve type i =
          (.error (.unsupported (r.unit.type (r.unit.canonicalType bottom)).kind.spelling
            (r.unit.type bottom).spelling), i)) ∧
      ((r.unit.type (r.unit.canonicalType bottom)).kind.hasCounterpart = true →
        r.resolve type i =
            ((r.resolve bottom i).1.map (CType.arrays counts), (r.resolve bottom i).2) ∧
          ((∃ found, (r.resolve bottom i).1 = .ok found) ∨
            ∃ start front, r.NamedFrom bottom start front ∧ ∀ n, r.GoesOn (r.down n start))) := by
  have hthrough := resolve_eq_of_arrayOf h i
  cases hkind : (r.unit.type (r.unit.canonicalType bottom)).kind.hasCounterpart with
  | false =>
    have hrefused := resolve_of_unsupported h hkind i
    refine ⟨⟨fun _ => rfl, fun _ => ?_⟩, fun _ => hrefused, nofun⟩
    exact ⟨_, _, congrArg Prod.fst hrefused⟩
  | true =>
    have hanswer := answer_of_hasCounterpart (walk_of_arrayOf h).2.2 hkind i
    refine ⟨⟨?_, nofun⟩, nofun, fun _ => ⟨hthrough, hanswer.imp_right And.right⟩⟩
    -- neither an answer nor a pointer to itself is refused for its category
    rintro ⟨kind, spelling, hrefused⟩
    rw [hthrough] at hrefused
    rcases hanswer with ⟨found, hfound⟩ | ⟨hendless, _⟩
    · rw [hfound] at hrefused
      cases hrefused
    · rw [hendless] at hrefused
      cases hrefused

/-- `Row[2]` after `typedef int Row[3]`. -/
def rowsOfRows : Resolver where
  unit := { ParsedUnit.empty with
    cursors := #[{ Cursor.missing with kind := .typedefDecl, spelling := "Row" }]
    types := #[
      { SourceType.missing with
        kind := .constantArray, spelling := "Row[2]", element := some 1, count := 2,
        canonical := some 2 },
      { SourceType.missing with
        kind := .typedef, spelling := "Row", declaration := some 0, canonical := some 3 },
      { SourceType.missing with
        kind := .constantArray, spelling := "int[2][3]", element := some 3, count := 2 },
      { SourceType.missing with
        kind := .constantArray, spelling := "int[3]", element := some 4, count := 3 },
      { SourceType.missing with kind := .int, spelling := "int" }] }
  prefixes := []
  visible := []

theorem resolve_arrayOf_rowsOfRows :
    ArrayOf rowsOfRows.unit (some 0) [2, 3] (some 4) ∧
      rowsOfRows.resolve (some 0) .empty =
        (.ok (.array (.array (.primitive "int") 3) 2), .empty) := by
  have hrow : ArrayOf rowsOfRows.unit (some 1) [3] (some 4) :=
    .hidden (by decide) (by decide) (.bottom (by decide))
  have hrows : ArrayOf rowsOfRows.unit (some 0) [2, 3] (some 4) :=
    .spelled (by decide) (by decide) hrow
  obtain ⟨_, _, hthrough⟩ := resolve_arrayOf hrows .empty
  refine ⟨hrows, ?_⟩
  rw [(hthrough (by decide +kernel)).1]
  decide +kernel

end Resolver

end HeaderIndex
