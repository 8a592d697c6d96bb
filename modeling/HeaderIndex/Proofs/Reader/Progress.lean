import HeaderIndex.Proofs.Reader.Fields
import HeaderIndex.Proofs.Reader.Forest
import Mathlib.Data.Set.Piecewise

/-!
# How far the definitions of a unit have been read

A definition is read in several steps, and others are read in between.  `Progress` says for each
definition how many of its fields are in the index, and that nothing else has fields.

* `Table`, `filled` — the fields of the definitions that have begun, and the table with some of them
  filled in.
* `within` — the table in the middle of a definition; `within_nested` and `within_field` lead from
  one middle to the next, and `within_memberCursors` to the end.
* `Progress.growsTo`, `Progress.update` — what leaves fields alone leaves the progress alone, and what
  changes those of one definition does not affect the others.
-/

namespace HeaderIndex.Reader

/-- The key of the type that a cursor declares. -/
def keyOf (r : Resolver) (position : Nat) : Key := r.unit.typeKey (r.unit.cursor position).type

/-- The names of the fields among some cursors. -/
def fieldNamesIn (r : Resolver) (cursors : List Nat) : List Name :=
  (cursors.filter (isField r.unit)).map fun child => (r.unit.cursor child).name r.prefixes

/-- The names of the fields that a definition declares, in order. -/
def declaredFields (r : Resolver) (position : Nat) : List Name :=
  fieldNamesIn r (r.unit.cursor position).children

/-- The names of the fields of each definition that has begun. -/
abbrev Table := Nat → Option (List Name)

open scoped Classical in
/-- The table where some definitions have all of their fields. -/
noncomputable def filled (r : Resolver) (table : Table) (finished : Set Nat) : Table :=
  finished.piecewise (fun position => some (declaredFields r position)) table

/-- The index holds the fields that a table of reached definitions tells, and no other fields. -/
structure Progress (r : Resolver) (table : Table) (index : Index) : Prop where
  separate : Separate index
  reached : ∀ position names, table position = some names →
    position ∈ definitions r.unit r.visible
  begun : ∀ position names, table position = some names →
    (∃ id, index.aggregateAt? (keyOf r position) = some id) ∧
      fieldNames index (keyOf r position) = names
  others : ∀ key, (∀ position names, table position = some names → keyOf r position ≠ key) →
    fieldNames index key = []

/-- The definitions that are reached have keys of their own. -/
def OwnKeys (r : Resolver) : Prop :=
  ∀ p ∈ definitions r.unit r.visible, ∀ q ∈ definitions r.unit r.visible,
    keyOf r p = keyOf r q → p = q

variable {r : Resolver} {table : Table} {index : Index} {id : EntityId} {position : Nat}
  {path : List Nat}

/-! ## Tables -/

section Tables

open scoped Classical

variable {finished : Set Nat}

theorem filled_of_mem (h : position ∈ finished) :
    filled r table finished position = some (declaredFields r position) := by
  rw [filled, Set.piecewise_eq_of_mem _ _ _ h]

theorem filled_of_notMem (h : position ∉ finished) :
    filled r table finished position = table position := by
  rw [filled, Set.piecewise_eq_of_notMem _ _ _ h]

theorem filled_empty : filled r table ∅ = table := by
  rw [filled, Set.piecewise_empty]

theorem filled_filled (first second : Set Nat) :
    filled r (filled r table first) second = filled r table (first ∪ second) := by
  funext q
  by_cases hs : q ∈ second
  · rw [filled_of_mem hs, filled_of_mem (.inr hs)]
  · rw [filled_of_notMem hs]
    by_cases hf : q ∈ first
    · rw [filled_of_mem hf, filled_of_mem (.inl hf)]
    · rw [filled_of_notMem hf, filled_of_notMem fun h => h.elim hf hs]

theorem filled_update (h : position ∉ finished) (names : Option (List Name)) :
    filled r (Function.update table position names) finished =
      Function.update (filled r table finished) position names := by
  funext q
  by_cases hq : q = position
  · subst hq
    rw [filled_of_notMem h, Function.update_self, Function.update_self]
  · rw [Function.update_of_ne hq]
    by_cases hf : q ∈ finished
    · rw [filled_of_mem hf, filled_of_mem hf]
    · rw [filled_of_notMem hf, filled_of_notMem hf, Function.update_of_ne hq]

/-- The last definition is filled in when it has all of its fields. -/
theorem filled_insert (position : Nat) :
    filled r table (insert position finished) =
      Function.update (filled r table finished) position (some (declaredFields r position)) := by
  rw [filled, filled, Set.piecewise_insert]

end Tables

/-- The table in the middle of a definition at a path, when some of its members have been read. -/
noncomputable def within (r : Resolver) (table : Table) (path : List Nat) (position : Nat)
    (seen : List Nat) : Table :=
  Function.update (filled r table (definitionsBefore r.unit r.visible path seen.length)) position
    (some (fieldNamesIn r seen))

theorem within_nil : within r table path position [] = Function.update table position (some []) := by
  unfold within
  rw [List.length_nil, definitionsBefore_zero, filled_empty]
  rfl

theorem fieldNamesIn_append (l m : List Nat) :
    fieldNamesIn r (l ++ m) = fieldNamesIn r l ++ fieldNamesIn r m := by
  simp [fieldNamesIn]

theorem fieldNamesIn_memberCursors (position : Nat) :
    fieldNamesIn r (memberCursors r.unit position) = declaredFields r position := by
  unfold declaredFields fieldNamesIn memberCursors
  rw [List.filter_filter]
  congr 2
  funext child
  simp only [isMember, Bool.and_or_distrib_left, Bool.and_self]
  cases isField r.unit child <;> rfl

/-- A nested declaration that has been read is filled in. -/
theorem within_nested (forest : Forest r.unit r.visible)
    (h : ReachedAt r.unit r.visible path position) {seen : List Nat} {inner : Nat}
    (hfield : isField r.unit inner = false) :
    filled r (within r table path position seen)
        (definitionsUnder r.unit r.visible (seen.length :: path)) =
      within r table path position (seen ++ [inner]) := by
  unfold within
  rw [filled_update (forest.notMem_under h _), filled_filled, ← definitionsBefore_succ,
    fieldNamesIn_append, List.length_append, List.length_singleton]
  simp [fieldNamesIn, hfield]

/-- A field that has been read is behind those before it. -/
theorem within_field (hp : IsDefinition r.unit position)
    (h : ReachedAt r.unit r.visible path position) {seen : List Nat} {child : Nat}
    (hchild : (memberCursors r.unit position)[seen.length]? = some child)
    (hfield : isField r.unit child = true) :
    within r table path position (seen ++ [child]) =
      Function.update (within r table path position seen) position
        (some (fieldNamesIn r seen ++ [(r.unit.cursor child).name r.prefixes])) := by
  have hnone : ¬ IsDefinition r.unit child := by
    rintro ⟨hkind, _⟩
    have hk : (r.unit.cursor child).kind = .fieldDecl := by simpa [isField] using hfield
    rw [hk] at hkind
    cases hkind
  unfold within
  rw [Function.update_idem, List.length_append, List.length_singleton, definitionsBefore_succ,
    definitionsUnder_of_not (.member h hp hchild) hnone, Set.union_empty, fieldNamesIn_append]
  simp [fieldNamesIn, hfield]

/-- What is nested in a definition has not begun before its place among the members. -/
theorem within_eq_none (forest : Forest r.unit r.visible)
    (h : ReachedAt r.unit r.visible path position)
    (hnone : ∀ q ∈ definitionsUnder r.unit r.visible path, table q = none) {seen : List Nat} {q : Nat}
    (hq : q ∈ definitionsUnder r.unit r.visible (seen.length :: path)) :
    within r table path position seen q = none := by
  have hne : q ≠ position := by
    rintro rfl
    exact forest.notMem_under h _ hq
  unfold within
  rw [Function.update_of_ne hne, filled_of_notMem (forest.notMem_before hq)]
  exact hnone q (definitionsUnder_cons_subset hq)

/-- At the end of a definition all of it is filled in. -/
theorem within_memberCursors (h : ReachedAt r.unit r.visible path position)
    (hp : IsDefinition r.unit position) :
    within r table path position (memberCursors r.unit position) =
      filled r table (definitionsUnder r.unit r.visible path) := by
  unfold within
  rw [fieldNamesIn_memberCursors, definitionsUnder_eq h hp, filled_insert]

/-! ## Progress -/

theorem progress_empty : Progress r (fun _ => none) .empty where
  separate := separate_empty
  reached := fun _ _ h => nomatch h
  begun := fun _ _ h => nomatch h
  others := fun _ _ => rfl

/-- What leaves fields alone leaves the progress alone. -/
theorem Progress.growsTo {later : Index} (h : Progress r table index) (hgrows : index.GrowsTo later)
    (separate : Separate later) (hfields : fieldNames later = fieldNames index) :
    Progress r table later where
  separate := separate
  reached := h.reached
  begun := by
    intro q names hq
    obtain ⟨⟨id, hid⟩, hnames⟩ := h.begun q names hq
    exact ⟨⟨id, hgrows.aggregateAt? hid⟩, by rw [hfields, hnames]⟩
  others := by
    intro key hkey
    rw [hfields]
    exact h.others key hkey

/-- A definition that has not begun has no fields. -/
theorem Progress.fieldNames_eq_nil (h : Progress r table index) (own : OwnKeys r)
    (hp : position ∈ definitions r.unit r.visible) (hnone : table position = none) :
    fieldNames index (keyOf r position) = [] := by
  refine h.others _ fun q names hq heq => ?_
  obtain rfl := own q (h.reached q names hq) position hp heq
  rw [hnone] at hq
  cases hq

/-- Setting what one definition has does not affect the others. -/
theorem Progress.update {later : Index} (h : Progress r table index) (own : OwnKeys r)
    (hp : position ∈ definitions r.unit r.visible) {names : List Name}
    (ha : index.aggregateAt? (keyOf r position) = some id)
    (hgrows : index.GrowsTo later) (separate : Separate later)
    (hfields : fieldNames later = Function.update (fieldNames index) (keyOf r position) names) :
    Progress r (Function.update table position (some names)) later where
  separate := separate
  reached := by
    intro q other hq
    by_cases heq : q = position
    · rw [heq]
      exact hp
    · rw [Function.update_of_ne heq] at hq
      exact h.reached q other hq
  begun := by
    intro q other hq
    by_cases heq : q = position
    · subst heq
      rw [Function.update_self] at hq
      exact ⟨⟨id, hgrows.aggregateAt? ha⟩, by rw [hfields, Function.update_self, Option.some.inj hq]⟩
    · rw [Function.update_of_ne heq] at hq
      have hkey : keyOf r q ≠ keyOf r position := fun hk =>
        heq (own q (h.reached q other hq) position hp hk)
      obtain ⟨⟨known, hknown⟩, hnames⟩ := h.begun q other hq
      exact ⟨⟨known, hgrows.aggregateAt? hknown⟩, by rw [hfields, Function.update_of_ne hkey, hnames]⟩
  others := by
    intro key hkey
    have hne : key ≠ keyOf r position := fun heq =>
      hkey position names (Function.update_self ..) heq.symm
    rw [hfields, Function.update_of_ne hne]
    refine h.others key fun q other hq => ?_
    by_cases heq : q = position
    · rw [heq]
      exact hne.symm
    · exact hkey q other (by rw [Function.update_of_ne heq, hq])

/-- A definition begins without fields. -/
theorem Progress.begin (h : Progress r table index) (own : OwnKeys r)
    (hp : position ∈ definitions r.unit r.visible) (hnone : table position = none)
    (ha : index.aggregateAt? (keyOf r position) = some id) :
    Progress r (Function.update table position (some [])) index := by
  refine h.update own hp ha (.refl _) h.separate ?_
  rw [← h.fieldNames_eq_nil own hp hnone, Function.update_eq_self]

end HeaderIndex.Reader
