import HeaderIndex.Proofs.Reader.Quoted
import HeaderIndex.Proofs.Reader.Run

/-!
# The constants of an enumeration

* `initial?` — what the initializer of a constant says; `isRecorded`, `skipWarning?` — a constant
  whose initializer has no value is left out with a warning.
* `withGaps` — the declared constants, each with the place behind which its comment stands.
* `Records` — what has been read after some of the constants.  One more of them is left out
  (`Records.skip`) or recorded (`Records.append`), and so are all of them (`records_enumerators`).
* `Sets` — an index in which one enumeration is filled and all else is as before.
* `readEnumeration_records` — an enumeration whose key is free, or leads to an enumeration without
  constants, gets the constants that were not left out.  Their values count on from the last one
  recorded, and no constant that is left out disturbs the count.
-/

namespace HeaderIndex.Reader

/-- The constants that are declared in an enumeration. -/
def constantCursors (unit : ParsedUnit) (cursor : Cursor) : List Cursor :=
  (cursor.children.map unit.cursor).filter (·.kind = .enumConstantDecl)

/-- What the initializer of a constant says, if there is one: its value, or why it has none. -/
def initial? (unit : ParsedUnit) (constant : Cursor) : Option (Except EvaluationError Number) :=
  constant.children.head?.map fun initializer =>
    (evaluateTokens (spelledTokens (unit.tokensOf (unit.cursor initializer)))).map (·.value)

/-- Whether a constant has no initializer or one with a value. -/
def isRecorded (unit : ParsedUnit) (constant : Cursor) : Bool :=
  match initial? unit constant with
  | some (.error _) => false
  | _ => true

/-- The warning about a constant that is left out. -/
def skipWarning? (unit : ParsedUnit) (constant : Cursor) : Option Warning :=
  match initial? unit constant with
  | some (.error error) => some (.enumerator constant.spelling error)
  | _ => none

theorem enumeratorValue_eq (unit : ParsedUnit) (constant : Cursor) (next : Number) :
    enumeratorValue unit constant next = (initial? unit constant).getD (.ok next) := by
  unfold enumeratorValue initial?
  cases constant.children with
  | nil => rfl
  | cons initializer rest =>
    simp only [List.head?_cons, Option.map_some, Option.getD_some, spelledTokens]
    cases evaluateTokens ((unit.tokensOf (unit.cursor initializer)).map fun token =>
      (token.kind, token.spelling)) <;> rfl

/-! ## Gaps -/

/-- Declarations, each with the start of the gap in front of it: the place of the one before, or a
given place for the first one. -/
def withGaps : Location → List Cursor → List (Location × Cursor)
  | _, [] => []
  | gap, declared :: rest => (gap, declared) :: withGaps declared.location rest

/-- The start of the gap behind some declarations. -/
def gapBehind (gap : Location) (declared : List Cursor) : Location :=
  (declared.getLast?.map (·.location)).getD gap

theorem withGaps_concat (gap : Location) (declared : List Cursor) (last : Cursor) :
    withGaps gap (declared ++ [last]) = withGaps gap declared ++ [(gapBehind gap declared, last)] := by
  induction declared generalizing gap with
  | nil => rfl
  | cons first rest ih =>
    have hgap : gapBehind first.location rest = gapBehind gap (first :: rest) := by
      unfold gapBehind
      rw [List.getLast?_cons]
      cases rest.getLast? <;> rfl
    simp only [List.cons_append, withGaps, ih, hgap]

/-- The declarations that are recorded, with their gaps. -/
def recorded (unit : ParsedUnit) (gap : Location) (declared : List Cursor) :
    List (Location × Cursor) :=
  (withGaps gap declared).filter fun d => isRecorded unit d.2

theorem gapBehind_concat (gap : Location) (declared : List Cursor) (last : Cursor) :
    gapBehind gap (declared ++ [last]) = last.location := by
  simp [gapBehind]

theorem recorded_concat (unit : ParsedUnit) (gap : Location) (declared : List Cursor)
    (last : Cursor) :
    recorded unit gap (declared ++ [last]) = recorded unit gap declared ++
      if isRecorded unit last = true then [(gapBehind gap declared, last)] else [] := by
  unfold recorded
  rw [withGaps_concat, List.filter_append, List.filter_singleton]
  simp only [Bool.cond_eq_ite]

/-- The constant that a declaration is read as, with a given value. -/
def enumerator (unit : ParsedUnit) (prefixes : List String) (texts : Comment.Texts)
    (declared : Location × Cursor) (value : Int) : Enumerator where
  name := declared.2.name prefixes
  value := .int value
  description := Comment.linesBefore unit declared.1 declared.2.location ++
    (texts.get? declared.2.spelling).getD []

/-! ## One constant after the other -/

/-- The value behind some values: one more than the last of them, and zero behind none. -/
def valueBehind (values : List Int) : Int := (values.getLast?.map (· + 1)).getD 0

/-- Whether an initializer that has a value has an integer. -/
def IsInteger (unit : ParsedUnit) (constant : Cursor) : Prop :=
  ∀ value, initial? unit constant = some (.ok value) → ∃ n : Int, value = .int n

/-- The value of a constant that is recorded behind given values. -/
def valueAt (unit : ParsedUnit) (constant : Cursor) (values : List Int) : Int :=
  match initial? unit constant with
  | some (.ok (.int n)) => n
  | _ => valueBehind values

variable {unit : ParsedUnit} {prefixes : List String} {texts : Comment.Texts} {gap : Location}

/-- What has been read after some constants, whose recorded ones have the given values. -/
structure Records (unit : ParsedUnit) (prefixes : List String) (texts : Comment.Texts)
    (gap : Location) (declared : List Cursor) (values : List Int) (read : Enumerators) : Prop where
  previous : read.previous = gapBehind gap declared
  next : read.next = .int (valueBehind values)
  warnings : read.warnings = declared.filterMap (skipWarning? unit)
  constants : read.constants =
    List.zipWith (enumerator unit prefixes texts) (recorded unit gap declared) values
  length : values.length = (recorded unit gap declared).length
  values : ∀ i d, (recorded unit gap declared)[i]? = some d →
    values[i]? = some (valueAt unit d.2 (values.take i))

theorem add_of_skipped {read : Enumerators} {constant : Cursor} {error : EvaluationError}
    (h : initial? unit constant = some (.error error)) :
    read.add unit prefixes texts constant =
      { read with
        previous := constant.location
        warnings := read.warnings ++ [.enumerator constant.spelling error] } := by
  unfold Enumerators.add
  simp only [enumeratorValue_eq, h, Option.getD_some]

theorem add_of_recorded {read : Enumerators} {constant : Cursor} {values : List Int}
    (h : isRecorded unit constant = true) (hint : IsInteger unit constant)
    (hnext : read.next = .int (valueBehind values)) :
    read.add unit prefixes texts constant =
      { read with
        constants := read.constants ++
          [enumerator unit prefixes texts (read.previous, constant) (valueAt unit constant values)]
        next := .int (valueAt unit constant values + 1)
        previous := constant.location } := by
  have hvalue : (initial? unit constant).getD (.ok read.next) =
      .ok (.int (valueAt unit constant values)) := by
    unfold valueAt
    cases hinitial : initial? unit constant with
    | none => rw [Option.getD_none, hnext]
    | some initial =>
      cases initial with
      | error error =>
        unfold isRecorded at h
        rw [hinitial] at h
        cases h
      | ok value =>
        obtain ⟨n, rfl⟩ := hint value hinitial
        rfl
  unfold Enumerators.add
  simp only [enumeratorValue_eq, hvalue]
  rfl

/-- A constant that is left out leaves the others and the count as they are. -/
theorem Records.skip {declared : List Cursor} {values : List Int} {read : Enumerators}
    (h : Records unit prefixes texts gap declared values read) {constant : Cursor}
    {error : EvaluationError} (herror : initial? unit constant = some (.error error)) :
    Records unit prefixes texts gap (declared ++ [constant]) values
      (read.add unit prefixes texts constant) := by
  have hnot : ¬ isRecorded unit constant = true := by
    unfold isRecorded
    rw [herror]
    simp
  have hwarning : skipWarning? unit constant = some (.enumerator constant.spelling error) := by
    unfold skipWarning?
    rw [herror]
  have hsame : recorded unit gap (declared ++ [constant]) = recorded unit gap declared := by
    rw [recorded_concat, if_neg hnot, List.append_nil]
  rw [add_of_skipped herror]
  refine ⟨(gapBehind_concat ..).symm, h.next, ?_, ?_, ?_, ?_⟩
  · simp [h.warnings, hwarning]
  · rw [hsame]
    exact h.constants
  · rw [hsame]
    exact h.length
  · rw [hsame]
    exact h.values

/-- A constant that is recorded stands behind the others, and counts on from them. -/
theorem Records.append {declared : List Cursor} {values : List Int} {read : Enumerators}
    (h : Records unit prefixes texts gap declared values read) {constant : Cursor}
    (hyes : isRecorded unit constant = true) (hint : IsInteger unit constant) :
    Records unit prefixes texts gap (declared ++ [constant])
      (values ++ [valueAt unit constant values]) (read.add unit prefixes texts constant) := by
  have hwarning : skipWarning? unit constant = none := by
    unfold isRecorded at hyes
    unfold skipWarning?
    split at hyes
    · cases hyes
    · rfl
  have hone : recorded unit gap (declared ++ [constant]) =
      recorded unit gap declared ++ [(gapBehind gap declared, constant)] := by
    rw [recorded_concat, if_pos hyes]
  rw [add_of_recorded hyes hint h.next]
  refine ⟨(gapBehind_concat ..).symm, ?_, ?_, ?_, ?_, ?_⟩
  · simp [valueBehind]
  · simp [h.warnings, hwarning]
  · rw [hone, List.zipWith_append h.length.symm, ← h.constants, h.previous]
    rfl
  · rw [hone, List.length_append, List.length_append, h.length]
    rfl
  · intro i d hd
    rw [hone] at hd
    have hi : i ≤ values.length := by
      have hlt := (List.getElem?_eq_some_iff.1 hd).1
      rw [List.length_append, ← h.length] at hlt
      simp only [List.length_singleton] at hlt
      omega
    rw [List.take_append_of_le_length hi]
    rcases Nat.lt_or_eq_of_le hi with hlt | heq
    · rw [List.getElem?_append_left (h.length ▸ hlt)] at hd
      rw [List.getElem?_append_left hlt]
      exact h.values i d hd
    · -- the new constant stands behind all others, so these are what it counts on from
      subst heq
      rw [h.length, List.getElem?_concat_length] at hd
      obtain rfl := Option.some.inj hd
      rw [List.getElem?_concat_length, List.take_length]

/-- One constant more: it is recorded behind the others, or left out. -/
theorem Records.add {declared : List Cursor} {values : List Int} {read : Enumerators}
    (h : Records unit prefixes texts gap declared values read) {constant : Cursor}
    (hint : IsInteger unit constant) :
    ∃ more, Records unit prefixes texts gap (declared ++ [constant]) (values ++ more)
      (read.add unit prefixes texts constant) := by
  by_cases hyes : isRecorded unit constant = true
  · exact ⟨_, h.append hyes hint⟩
  · unfold isRecorded at hyes
    split at hyes
    · rename_i error herror
      refine ⟨[], ?_⟩
      rw [List.append_nil]
      exact h.skip herror
    · exact absurd rfl hyes

/-- All constants of an enumeration. -/
theorem records_enumerators {cursor : Cursor}
    (hint : ∀ constant ∈ constantCursors unit cursor, IsInteger unit constant) :
    ∃ values, Records unit prefixes texts cursor.location (constantCursors unit cursor) values
      (enumerators unit prefixes texts cursor) := by
  have hfold : ∀ declared : List Cursor, (∀ constant ∈ declared, IsInteger unit constant) →
      ∃ values, Records unit prefixes texts cursor.location declared values
        (declared.foldl (Enumerators.add unit prefixes texts) ⟨[], [], .int 0, cursor.location⟩) := by
    intro declared
    induction declared using List.reverseRecOn with
    | nil =>
      intro _
      exact ⟨[], rfl, rfl, rfl, rfl, rfl, fun i d hd => by simp [recorded, withGaps] at hd⟩
    | append_singleton front last ih =>
      intro hall
      obtain ⟨values, hread⟩ := ih fun constant hmem => hall constant (List.mem_append_left _ hmem)
      obtain ⟨more, hmore⟩ := hread.add (hall last (by simp))
      rw [List.foldl_append]
      exact ⟨values ++ more, hmore⟩
  exact hfold _ hint

/-! ## Counting on -/

theorem valueBehind_take {values : List Int} {i : Nat} {v : Int} (h : values[i]? = some v) :
    valueBehind (values.take (i + 1)) = v + 1 := by
  unfold valueBehind
  rw [List.take_add_one, h]
  simp

/-- Constants without initializers count on from the one in front of them. -/
theorem Records.counts {declared : List Cursor} {values : List Int} {read : Enumerators}
    (h : Records unit prefixes texts gap declared values read) {i : Nat} {v : Int}
    (hv : values[i]? = some v) (k : Nat)
    (himplicit : ∀ j < k, ∃ d, (recorded unit gap declared)[i + j + 1]? = some d ∧
      initial? unit d.2 = none) :
    values[i + k]? = some (v + (k : Int)) := by
  induction k with
  | zero => simpa using hv
  | succ k ih =>
    have hbefore := ih fun j hj => himplicit j (by omega)
    obtain ⟨d, hd, hnone⟩ := himplicit k (by omega)
    have hvalue := h.values _ d hd
    have hat : valueAt unit d.2 (values.take (i + k + 1)) = v + k + 1 := by
      unfold valueAt
      rw [hnone]
      exact valueBehind_take hbefore
    rw [hat] at hvalue
    rw [← Nat.add_assoc, hvalue, Int.natCast_succ, Int.add_assoc]

/-! ## Filling an enumeration -/

/-- Whether a key is free, or leads to an enumeration without constants. -/
def Fillable (key : Key) (index : Index) : Prop :=
  index.lookup key = none ∨ ∃ id e, index.get? key = some id ∧
    index.entity? id = some (.enumeration e) ∧ e.constants = []

/-- Whether an index differs from an earlier one by an enumeration under a key. -/
structure Sets (key : Key) (id : EntityId) (e : Enumeration) (before after : Index) : Prop where
  bound : after.lookup key = some id
  entity : after.entity? id = some (.enumeration e)
  keys : ∀ k, k ≠ key → after.lookup k = before.lookup k
  others : ∀ other, other ≠ id → after.entity? other = before.entity? other

theorem sets_add {key : Key} {index : Index} (h : index.lookup key = none) (e : Enumeration) :
    Sets key (index.add key (.enumeration e)).1 e index (index.add key (.enumeration e)).2 := by
  refine ⟨index.lookup_add_self key _, Index.entity?_add_of_free h _, ?_, ?_⟩
  · intro k hk
    rw [Index.lookup_add, if_neg hk, Option.or_none]
  · intro other hother
    exact Index.entity?_add_of_ne hother

theorem sets_mapEnumeration {key : Key} {id : EntityId} {index : Index} {e : Enumeration}
    (hbound : index.lookup key = some id) (hentity : index.entity? id = some (.enumeration e))
    (f : Enumeration → Enumeration) :
    Sets key id (f e) index (index.modify id (Entity.mapEnumeration f)) := by
  refine ⟨hbound, ?_, fun _ _ => rfl, fun other hother => ?_⟩
  · rw [Index.entity?_modify, if_pos rfl, hentity]
    rfl
  · rw [Index.entity?_modify, if_neg (Ne.symm hother)]

theorem sets_modify {key : Key} {id : EntityId} {index : Index} {e : Enumeration}
    (hbound : index.lookup key = some id) (hentity : index.entity? id = some (.enumeration e))
    (name : Name) (f : Enumeration → Enumeration) :
    ∃ named : Enumeration, Sets key id (f named) index
      ((index.adoptName id name).modify id (Entity.mapEnumeration f)) := by
  refine ⟨if e.name.isEmpty then { e with name } else e, hbound, ?_, fun _ _ => rfl, ?_⟩
  · simp [Index.adoptName, Index.entity?_modify, hentity, Entity.adoptName, Entity.mapEnumeration]
  · intro other hother
    unfold Index.adoptName
    rw [Index.entity?_modify, if_neg (Ne.symm hother), Index.entity?_modify,
      if_neg (Ne.symm hother)]

variable {r : Resolver} {s : State}

/-- What is read is what the enumeration under the key then has. -/
theorem sets_readEnumeration {cursor : Cursor}
    (hkey : Fillable (r.unit.typeKey cursor.type) s.index) (comment : List String) :
    let read := enumerators r.unit r.prefixes (Comment.splitEnum comment).constants cursor
    ∃ t id e, readEnumeration r cursor comment s = (.ok (), t) ∧
      Sets (r.unit.typeKey cursor.type) id e s.index t.index ∧ e.constants = read.constants ∧
      t.warnings = read.warnings.reverse ++ s.warnings := by
  intro read
  let next := s.breakOff (enumeratorsCut r.unit cursor)
  rcases hkey with hfree | ⟨id, e, hget, hentity, hnone⟩
  · have hexisting : s.index.get? (r.unit.typeKey cursor.type) = none := by
      unfold Index.get?
      rw [hfree, ite_self]
    refine ⟨(next.warn read.warnings).goTo (s.index.add (r.unit.typeKey cursor.type)
      (.enumeration ⟨cursor.name r.prefixes, read.constants,
        (Comment.splitEnum comment).description⟩)).2, _, _, ?_, sets_add hfree _, rfl, rfl⟩
    show readEnumeration r cursor comment s = _
    unfold readEnumeration
    simp only [bind, Action.bind, Action.index, hexisting, Option.bind_none, Option.any_none]
    rfl
  · have hfilled : e.constants.isEmpty = true := by rw [hnone]; rfl
    obtain ⟨named, hsets⟩ := sets_modify (Index.lookup_of_get? hget).1 hentity
      (cursor.name r.prefixes) fun e =>
        { e with
          constants := read.constants, description := (Comment.splitEnum comment).description }
    refine ⟨((next.warn read.warnings).goTo (s.index.adoptName id (cursor.name r.prefixes))).goTo
      ((s.index.adoptName id (cursor.name r.prefixes)).modify id (Entity.mapEnumeration fun e =>
        { e with
          constants := read.constants, description := (Comment.splitEnum comment).description })),
      id, _, ?_, hsets, rfl, rfl⟩
    show readEnumeration r cursor comment s = _
    unfold readEnumeration
    simp only [bind, Action.bind, Action.index, hget, Option.bind_some, hentity,
      Entity.enumeration?, Option.map_some, Option.any_some, hfilled]
    rfl

/-- **The values of constants count on, whatever is left out.**  Reading an enumeration whose key is
free or leads to an enumeration without constants, and whose initializers have integers if they have
a value at all, records just the constants without an initializer and those whose initializer has a
value, in order.

* Each is described by the nearest comment behind the constant in front of it, recorded or not, and
  by the lines about it in the comment of the enumeration.
* The value of an initializer is the value of its constant.  Without one, a constant is one more than
  the one recorded in front of it, the first one zero; so the `k`-th of the constants without
  initializers behind a constant with the value `v` is `v + k`.
* Each constant that is left out has one warning, in order, and nothing else comes of it. -/
theorem readEnumeration_records {cursor : Cursor}
    (hkey : Fillable (r.unit.typeKey cursor.type) s.index)
    (hint : ∀ constant ∈ constantCursors r.unit cursor, IsInteger r.unit constant)
    (comment : List String) :
    let declared := constantCursors r.unit cursor
    let kept := (withGaps cursor.location declared).filter fun d => isRecorded r.unit d.2
    let texts := (Comment.splitEnum comment).constants
    ∃ (t : State) (id : EntityId) (e : Enumeration) (values : List Int),
      readEnumeration r cursor comment s = (.ok (), t) ∧
      Sets (r.unit.typeKey cursor.type) id e s.index t.index ∧
      t.warnings = (declared.filterMap (skipWarning? r.unit)).reverse ++ s.warnings ∧
      values.length = kept.length ∧
      e.constants = List.zipWith (enumerator r.unit r.prefixes texts) kept values ∧
      (∀ (i : Nat) d (v : Int), kept[i]? = some d → initial? r.unit d.2 = some (.ok (.int v)) →
        values[i]? = some v) ∧
      (∀ d, kept[0]? = some d → initial? r.unit d.2 = none → values[0]? = some 0) ∧
      (∀ (i : Nat) d (v : Int), kept[i + 1]? = some d → initial? r.unit d.2 = none →
        values[i]? = some v → values[i + 1]? = some (v + 1)) ∧
      ∀ (i : Nat) (v : Int) (k : Nat), values[i]? = some v →
        (∀ j < k, ∃ d, kept[i + j + 1]? = some d ∧ initial? r.unit d.2 = none) →
        values[i + k]? = some (v + (k : Int)) := by
  intro declared kept texts
  obtain ⟨values, hread⟩ :=
    @records_enumerators r.unit r.prefixes (Comment.splitEnum comment).constants cursor hint
  obtain ⟨t, id, e, hrun, hsets, hconstants, hwarnings⟩ := sets_readEnumeration hkey comment
  have hat : ∀ i d, kept[i]? = some d →
      values[i]? = some (valueAt r.unit d.2 (values.take i)) := hread.values
  refine ⟨t, id, e, values, hrun, hsets, ?_, hread.length, ?_, ?_, ?_, ?_, ?_⟩
  · rw [hwarnings, hread.warnings]
  · rw [hconstants]
    exact hread.constants
  · intro i d v hd hinitial
    rw [hat i d hd, valueAt, hinitial]
  · intro d hd hinitial
    rw [hat 0 d hd, valueAt, hinitial]
    rfl
  · intro i d v hd hinitial hv
    rw [hat (i + 1) d hd, valueAt, hinitial]
    exact congrArg some (valueBehind_take hv)
  · intro i v k hv himplicit
    exact hread.counts hv k himplicit

/-- `enum M { A, B = 5, C, D = x, /* last */ E };` -/
def mixedConstants : ParsedUnit where
  files := #["m.h"]
  tokens := #[[⟨.keyword, "enum", 0, 4, 1⟩, ⟨.identifier, "M", 5, 6, 1⟩, ⟨.punctuation, "\x7b", 7, 8, 1⟩,
    ⟨.identifier, "A", 9, 10, 1⟩, ⟨.punctuation, ",", 10, 11, 1⟩,
    ⟨.identifier, "B", 12, 13, 1⟩, ⟨.punctuation, "=", 14, 15, 1⟩, ⟨.literal, "5", 16, 17, 1⟩,
    ⟨.punctuation, ",", 17, 18, 1⟩, ⟨.identifier, "C", 19, 20, 1⟩, ⟨.punctuation, ",", 20, 21, 1⟩,
    ⟨.identifier, "D", 22, 23, 1⟩, ⟨.punctuation, "=", 24, 25, 1⟩, ⟨.identifier, "x", 26, 27, 1⟩,
    ⟨.punctuation, ",", 27, 28, 1⟩, ⟨.comment, "/* last */", 29, 39, 1⟩,
    ⟨.identifier, "E", 40, 41, 1⟩, ⟨.punctuation, "\x7d", 42, 43, 1⟩, ⟨.punctuation, ";", 43, 44, 1⟩]]
  cursors := #[
    { Cursor.missing with
      kind := .enumDecl, spelling := "M", location := ⟨some 0, 5, 1⟩, start := ⟨some 0, 0, 1⟩
      stop := ⟨some 0, 43, 1⟩, type := some 0, children := [1, 2, 4, 5, 7], isDefinition := true },
    { Cursor.missing with
      kind := .enumConstantDecl, spelling := "A", location := ⟨some 0, 9, 1⟩ },
    { Cursor.missing with
      kind := .enumConstantDecl, spelling := "B", location := ⟨some 0, 12, 1⟩, children := [3] },
    { Cursor.missing with start := ⟨some 0, 16, 1⟩, stop := ⟨some 0, 17, 1⟩ },
    { Cursor.missing with
      kind := .enumConstantDecl, spelling := "C", location := ⟨some 0, 19, 1⟩ },
    { Cursor.missing with
      kind := .enumConstantDecl, spelling := "D", location := ⟨some 0, 22, 1⟩, children := [6] },
    { Cursor.missing with start := ⟨some 0, 26, 1⟩, stop := ⟨some 0, 27, 1⟩ },
    { Cursor.missing with
      kind := .enumConstantDecl, spelling := "E", location := ⟨some 0, 40, 1⟩ }]
  types := #[{ SourceType.missing with kind := .enum, spelling := "enum M", declaration := some 0 }]
  top := [0]
  includes := []
  diagnostics := []

/-- `D` is left out: `E` counts on from `C`, and is described by the comment behind `D`. -/
theorem readEnumeration_records_mixed :
    Fillable (mixedConstants.typeKey (some 0)) State.initial.index ∧
    (∀ constant ∈ constantCursors mixedConstants (mixedConstants.cursor 0),
      IsInteger mixedConstants constant) ∧
    ∃ (t : State) (id : EntityId) (e : Enumeration),
      readEnumeration ⟨mixedConstants, [], ["m.h"]⟩ (mixedConstants.cursor 0)
        ["Sorts.", "@B: The second."] .initial = (.ok (), t) ∧
      Sets (mixedConstants.typeKey (some 0)) id e State.initial.index t.index ∧
      e.constants.map (fun constant => (constant.value, constant.description)) =
        [(.int 0, []), (.int 5, ["The second."]), (.int 6, []), (.int 7, ["last"])] ∧
      t.warnings = [.enumerator "D" (.token "x")] := by
  have hkey : Fillable (mixedConstants.typeKey (some 0)) State.initial.index := .inl rfl
  have hinitials : (constantCursors mixedConstants (mixedConstants.cursor 0)).map
      (initial? mixedConstants) =
        [none, some (.ok (.int 5)), none, some (.error (.token "x")), none] := by decide
  have hint : ∀ constant ∈ constantCursors mixedConstants (mixedConstants.cursor 0),
      IsInteger mixedConstants constant := by
    intro constant hmem value hinitial
    have hin := List.mem_map_of_mem hmem (f := initial? mixedConstants)
    rw [hinitials, hinitial] at hin
    simp only [List.mem_cons, reduceCtorEq, Option.some.injEq, Except.ok.injEq, List.not_mem_nil,
      or_false, false_or] at hin
    exact ⟨5, hin⟩
  obtain ⟨t, id, e, values, hrun, hsets, hwarnings, hlength, hconstants, hexplicit, hfirst, hnext, _⟩ :=
    @readEnumeration_records ⟨mixedConstants, [], ["m.h"]⟩ .initial (mixedConstants.cursor 0) hkey
      hint ["Sorts.", "@B: The second."]
  have hvalues : values = [0, 5, 6, 7] := by
    have h0 := hfirst _ rfl rfl
    have h1 := hexplicit 1 _ 5 rfl rfl
    have h2 := hnext 1 _ 5 rfl rfl h1
    have h3 := hnext 2 _ 6 rfl rfl h2
    refine List.ext_getElem? fun i => ?_
    match i with
    | 0 => exact h0
    | 1 => exact h1
    | 2 => exact h2
    | 3 => exact h3
    | i + 4 =>
      have hfour : values.length = 4 := hlength
      rw [List.getElem?_eq_none (by omega)]
      rfl
  refine ⟨hkey, hint, t, id, e, hrun, hsets, ?_, ?_⟩
  · rw [hconstants, hvalues]
    decide +kernel
  · rw [hwarnings]
    decide

end HeaderIndex.Reader
