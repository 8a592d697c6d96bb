import HeaderIndex.Proofs.Reader.Visible
import Mathlib.Data.Set.Basic

/-!
# Where cursors are reached

Reading starts at the visible top-level cursors and goes down from definitions of structures and
unions to the members among their children.

* `ReachedAt` — a cursor is reached on a path of positions in lists, the innermost first.
* `Forest` — every cursor is reached on one path only; `Forest.of_rows` tells from the tables.
* `definitionsUnder` — the definitions that are reached at a path or further down.
* `definitionsUnder_eq` — these are the one at the path and those under its members.
* `Forest.notMem_of_under` — in a forest nothing is reached under two of the members.
-/

namespace HeaderIndex.Reader

/-- Whether a cursor is the definition of a structure or union. -/
def IsDefinition (unit : ParsedUnit) (position : Nat) : Prop :=
  (unit.cursor position).kind.isAggregate = true ∧ (unit.cursor position).isDefinition = true

instance (unit : ParsedUnit) (position : Nat) : Decidable (IsDefinition unit position) :=
  inferInstanceAs (Decidable (_ ∧ _))

/-- The members among the children of a cursor. -/
def memberCursors (unit : ParsedUnit) (position : Nat) : List Nat :=
  (unit.cursor position).children.filter (isMember unit)

/-- The top-level cursors of visible files. -/
def visibleTop (unit : ParsedUnit) (visible : List String) : List Nat :=
  unit.top.filter fun position => (fileOf unit position).any visible.contains

/-- The visible top-level cursors are the ones that are read. -/
theorem map_position_gapsFrom (unit : ParsedUnit) (visible : List String) (ends : Ends)
    (positions : List Nat) :
    ((gapsFrom unit ends positions).filter fun declaration =>
        visible.contains declaration.file).map (·.position) =
      positions.filter fun position => (fileOf unit position).any visible.contains := by
  induction positions generalizing ends with
  | nil => rfl
  | cons position rest ih =>
    cases hfile : fileOf unit position with
    | none =>
      rw [gapsFrom_of_inNoFile hfile, ih, List.filter_cons_of_neg (by simp [hfile])]
    | some name =>
      obtain ⟨file, hgaps⟩ := gapsFrom_of_inFile hfile
      rw [hgaps, List.filter_cons, List.filter_cons]
      simp only [hfile, Option.any_some]
      split
      · rw [List.map_cons, ih]
      · exact ih _

/-- A cursor is reached on a path, which tells its place among the members of a definition first,
then the place of that definition, and so on up to a top-level cursor. -/
inductive ReachedAt (unit : ParsedUnit) (visible : List String) : List Nat → Nat → Prop
  | top {place position : Nat} (h : (visibleTop unit visible)[place]? = some position) :
      ReachedAt unit visible [place] position
  | member {path : List Nat} {parent place position : Nat} (above : ReachedAt unit visible path parent)
      (definition : IsDefinition unit parent)
      (h : (memberCursors unit parent)[place]? = some position) :
      ReachedAt unit visible (place :: path) position

/-- Whether the reached cursors form a forest: each is reached on one path only. -/
def Forest (unit : ParsedUnit) (visible : List String) : Prop :=
  ∀ path path' position, ReachedAt unit visible path position →
    ReachedAt unit visible path' position → path = path'

/-- The definitions that are reached at a path or further down. -/
def definitionsUnder (unit : ParsedUnit) (visible : List String) (path : List Nat) : Set Nat :=
  {position | IsDefinition unit position ∧ ∃ down, ReachedAt unit visible (down ++ path) position}

/-- The definitions under the first of the places that a path can go on to. -/
def definitionsBefore (unit : ParsedUnit) (visible : List String) (path : List Nat) (count : Nat) :
    Set Nat :=
  {position | ∃ place < count, position ∈ definitionsUnder unit visible (place :: path)}

/-- All definitions that are reached. -/
def definitions (unit : ParsedUnit) (visible : List String) : Set Nat :=
  {position | IsDefinition unit position ∧ ∃ path, ReachedAt unit visible path position}

variable {unit : ParsedUnit} {visible : List String} {path : List Nat} {position place : Nat}

/-! ## Paths -/

/-- A path leads to one cursor. -/
theorem ReachedAt.unique {other : Nat} (h : ReachedAt unit visible path position)
    (h' : ReachedAt unit visible path other) : position = other := by
  induction h generalizing other with
  | top h =>
    cases h' with
    | top h' => exact Option.some.inj (h.symm.trans h')
    | member above => cases above
  | member above _ h ih =>
    cases h' with
    | top => cases above
    | member above' _ h' =>
      obtain rfl := ih above'
      exact Option.some.inj (h.symm.trans h')

/-- Above a cursor that is reached in a definition is that definition. -/
theorem ReachedAt.above {down : List Nat} (hpath : path ≠ [])
    (h : ReachedAt unit visible (down ++ place :: path) position) :
    ∃ parent, ReachedAt unit visible path parent ∧ IsDefinition unit parent ∧
      ∃ child, (memberCursors unit parent)[place]? = some child := by
  generalize hwhole : down ++ place :: path = whole at h
  induction h generalizing down with
  | top =>
    cases down with
    | nil => exact absurd (List.cons.inj hwhole).2 hpath
    | cons first down => simp at hwhole
  | member above definition hmember ih =>
    cases down with
    | nil =>
      obtain ⟨rfl, rfl⟩ := List.cons.inj hwhole
      exact ⟨_, above, definition, _, hmember⟩
    | cons first down => exact ih (List.cons.inj hwhole).2

theorem ReachedAt.ne_nil (h : ReachedAt unit visible path position) : path ≠ [] := by
  cases h <;> exact List.cons_ne_nil _ _

/-- A path starts at a top-level cursor. -/
theorem ReachedAt.start (h : ReachedAt unit visible path position) :
    ∃ down, ∃ place < (visibleTop unit visible).length, path = down ++ [place] := by
  induction h with
  | @top place _ h => exact ⟨[], place, (List.getElem?_eq_some_iff.1 h).1, rfl⟩
  | @member _ _ place _ _ _ _ ih =>
    obtain ⟨down, start, hstart, rfl⟩ := ih
    exact ⟨place :: down, start, hstart, rfl⟩

/-! ## Definitions under a path -/

theorem definitionsUnder_cons_subset :
    definitionsUnder unit visible (place :: path) ⊆ definitionsUnder unit visible path := by
  rintro q ⟨hq, down, hreached⟩
  refine ⟨hq, down ++ [place], ?_⟩
  rw [List.append_assoc]
  exact hreached

/-- Nothing is reached under a cursor that is no definition. -/
theorem definitionsUnder_of_not (h : ReachedAt unit visible path position)
    (hp : ¬ IsDefinition unit position) : definitionsUnder unit visible path = ∅ := by
  rw [Set.eq_empty_iff_forall_notMem]
  rintro q ⟨hq, down, hreached⟩
  rcases List.eq_nil_or_concat down with rfl | ⟨more, place, rfl⟩
  · exact hp (h.unique hreached ▸ hq)
  · rw [List.concat_eq_append, List.append_assoc] at hreached
    obtain ⟨parent, hparent, hdefinition, _⟩ := hreached.above h.ne_nil
    exact hp (h.unique hparent ▸ hdefinition)

/-- **Under a definition** are reached it itself and what is reached under its members. -/
theorem definitionsUnder_eq (h : ReachedAt unit visible path position)
    (hp : IsDefinition unit position) :
    definitionsUnder unit visible path =
      insert position
        (definitionsBefore unit visible path (memberCursors unit position).length) := by
  ext q
  constructor
  · rintro ⟨hq, down, hreached⟩
    rcases List.eq_nil_or_concat down with rfl | ⟨more, place, rfl⟩
    · exact .inl (hreached.unique h)
    · rw [List.concat_eq_append, List.append_assoc] at hreached
      obtain ⟨parent, hparent, _, child, hchild⟩ := hreached.above h.ne_nil
      obtain rfl := h.unique hparent
      exact .inr ⟨place, (List.getElem?_eq_some_iff.1 hchild).1, hq, more, hreached⟩
  · rintro (rfl | ⟨place, _, hq⟩)
    · exact ⟨hp, [], h⟩
    · exact definitionsUnder_cons_subset hq

theorem definitionsBefore_zero : definitionsBefore unit visible path 0 = ∅ := by
  rw [Set.eq_empty_iff_forall_notMem]
  rintro q ⟨place, hplace, _⟩
  exact Nat.not_lt_zero place hplace

theorem definitionsBefore_succ (count : Nat) :
    definitionsBefore unit visible path (count + 1) =
      definitionsBefore unit visible path count ∪ definitionsUnder unit visible (count :: path) := by
  ext q
  constructor
  · rintro ⟨place, hplace, hq⟩
    rcases Nat.lt_succ_iff_lt_or_eq.1 hplace with hlt | rfl
    · exact .inl ⟨place, hlt, hq⟩
    · exact .inr hq
  · rintro (⟨place, hplace, hq⟩ | hq)
    · exact ⟨place, Nat.lt_succ_of_lt hplace, hq⟩
    · exact ⟨count, Nat.lt_succ_self count, hq⟩

/-- All definitions are reached under some top-level cursor. -/
theorem definitions_eq :
    definitions unit visible =
      definitionsBefore unit visible [] (visibleTop unit visible).length := by
  ext q
  constructor
  · rintro ⟨hq, path, hreached⟩
    obtain ⟨down, place, hplace, rfl⟩ := hreached.start
    exact ⟨place, hplace, hq, down, hreached⟩
  · rintro ⟨place, _, hq, down, hreached⟩
    exact ⟨hq, _, hreached⟩

/-! ## Forests -/

theorem lt_of_isDefinition (h : IsDefinition unit position) : position < unit.cursors.size := by
  by_contra hge
  have hkind := h.1
  rw [ParsedUnit.cursor_of_size_le (Nat.le_of_not_lt hge)] at hkind
  cases hkind

/-- The members that reading goes on to from a cursor. -/
def membersBelow (unit : ParsedUnit) (position : Nat) : List Nat :=
  if IsDefinition unit position then memberCursors unit position else []

theorem membersBelow_of_isDefinition (h : IsDefinition unit position) :
    membersBelow unit position = memberCursors unit position := if_pos h

/-- Cursors form a forest if each is listed once: at the top, or as a member of one definition. -/
theorem Forest.of_rows (top : (visibleTop unit visible).Nodup)
    (members : ∀ parent < unit.cursors.size, (membersBelow unit parent).Nodup ∧
      ∀ child ∈ membersBelow unit parent, child ∉ visibleTop unit visible)
    (parents : ∀ parent < unit.cursors.size, ∀ parent' < unit.cursors.size,
      ∀ child ∈ membersBelow unit parent, child ∈ membersBelow unit parent' → parent = parent') :
    Forest unit visible := by
  -- the last step of both paths is the same, since a cursor is listed in one place only
  intro path path' position h h'
  induction h generalizing path' with
  | @top place position h =>
    cases h' with
    | @top place' _ h' =>
      have hsame := (List.getElem?_inj (List.getElem?_eq_some_iff.1 h).1 top).1 (h.trans h'.symm)
      rw [hsame]
    | @member _ parent _ _ _ hdefinition h' =>
      rw [← membersBelow_of_isDefinition hdefinition] at h'
      have hnot := (members parent (lt_of_isDefinition hdefinition)).2 position
        (List.mem_of_getElem? h')
      exact absurd (List.mem_of_getElem? h) hnot
  | @member path parent place position above hdefinition h ih =>
    have hparent := lt_of_isDefinition hdefinition
    rw [← membersBelow_of_isDefinition hdefinition] at h
    have hmember := List.mem_of_getElem? h
    cases h' with
    | top h' => exact absurd (List.mem_of_getElem? h') ((members parent hparent).2 position hmember)
    | @member path' parent' place' _ above' hdefinition' h' =>
      rw [← membersBelow_of_isDefinition hdefinition'] at h'
      obtain rfl := parents parent hparent parent' (lt_of_isDefinition hdefinition') position
        hmember (List.mem_of_getElem? h')
      have hnodup := (members parent hparent).1
      have hplace := (List.getElem?_inj (List.getElem?_eq_some_iff.1 h).1 hnodup).1 (h.trans h'.symm)
      rw [hplace, ih _ above']

variable (forest : Forest unit visible)
include forest

/-- A definition is not reached under its own members. -/
theorem Forest.notMem_under (h : ReachedAt unit visible path position) (place : Nat) :
    position ∉ definitionsUnder unit visible (place :: path) := by
  rintro ⟨_, down, hreached⟩
  have hlength := congrArg List.length (forest _ _ _ h hreached)
  rw [List.length_append, List.length_cons] at hlength
  omega

/-- **Nothing is reached under two of the places that a path can go on to.** -/
theorem Forest.notMem_of_under {other q : Nat} (hne : place ≠ other)
    (h : q ∈ definitionsUnder unit visible (place :: path)) :
    q ∉ definitionsUnder unit visible (other :: path) := by
  obtain ⟨_, down, hreached⟩ := h
  rintro ⟨_, down', hreached'⟩
  have hpaths := forest _ _ _ hreached hreached'
  exact hne (List.cons.inj (List.append_inj_right' hpaths rfl)).1

theorem Forest.notMem_before {q : Nat} (h : q ∈ definitionsUnder unit visible (place :: path)) :
    q ∉ definitionsBefore unit visible path place := by
  rintro ⟨earlier, hlt, hq⟩
  exact forest.notMem_of_under (Nat.ne_of_lt hlt) hq h

end HeaderIndex.Reader
