import HeaderIndex.Proofs.Expression.Integers
import HeaderIndex.Proofs.Reader.Enumerators

/-!
# Integers among the constants of enumerations

The value of an initializer is recorded as it is, and it may be a float: single quotes are passed
over in literals, so that a character constant with a point in it is read as one.

* `CountsIntegers` — no float is written in the last initializer among some constants, or there is
  none.
* `ReadsConstants` — constants that were read from declarations, and which of them are integers.
  One more is read (`Counted.add`), and so are all of an enumeration (`counted_enumerators`).
* `Step.enumerators`, `Path.enumerators` — a step leaves the constants of an enumeration as they are
  or reads them from a declaration of it, and so does a run.
* `reached_integers` — which constants of which enumerations are integers, in every index of a run.
-/

namespace HeaderIndex

/-- The constants of an enumeration; nothing else has any. -/
def Entity.enumerators : Entity → List Enumerator
  | enumeration e => e.constants
  | _ => []

@[simp] theorem Entity.enumerators_adoptName (e : Entity) (name : Name) :
    (e.adoptName name).enumerators = e.enumerators := by
  cases e with
  | enumeration e => simp only [adoptName, enumerators]; split <;> rfl
  | _ => rfl

@[simp] theorem Entity.enumerators_mapAggregate (e : Entity) (f : Aggregate → Aggregate) :
    (e.mapAggregate f).enumerators = e.enumerators := by
  cases e <;> rfl

namespace Reader

/-! ## Initializers -/

/-- The tokens of the initializer of a constant, if it has one. -/
def initializer? (unit : ParsedUnit) (constant : Cursor) : Option (List (TokenKind × String)) :=
  constant.children.head?.map fun initializer =>
    spelledTokens (unit.tokensOf (unit.cursor initializer))

/-- The tokens of the last initializer among some constants. -/
def lastInitializer? (unit : ParsedUnit) (constants : List Cursor) :
    Option (List (TokenKind × String)) :=
  (constants.filterMap (initializer? unit)).getLast?

/-- Whether constants that count on from each other end with an integer: no float is written in the
last initializer among them.  Where there is none, they count on from zero. -/
def CountsIntegers (unit : ParsedUnit) (constants : List Cursor) : Prop :=
  ∀ tokens, lastInitializer? unit constants = some tokens →
    ∀ token ∈ tokens, isFloatLiteral token = false

variable {unit : ParsedUnit} {prefixes : List String} {texts : Comment.Texts} {constant : Cursor}
  {kept : List Cursor}

theorem initial?_eq (unit : ParsedUnit) (constant : Cursor) :
    initial? unit constant =
      (initializer? unit constant).map fun tokens => (evaluateTokens tokens).map (·.value) := by
  unfold initial? initializer?
  rw [Option.map_map]
  rfl

theorem countsIntegers_nil : CountsIntegers unit [] := fun _ h => nomatch h

theorem countsIntegers_concat (unit : ParsedUnit) (kept : List Cursor) (constant : Cursor) :
    CountsIntegers unit (kept ++ [constant]) ↔
      match initializer? unit constant with
      | some tokens => ∀ token ∈ tokens, isFloatLiteral token = false
      | none => CountsIntegers unit kept := by
  unfold CountsIntegers lastInitializer?
  cases hinitializer : initializer? unit constant with
  | some tokens => simp [hinitializer]
  | none => simp [hinitializer]

/-! ## One constant after the other -/

theorem isRecorded_eq (unit : ParsedUnit) (constant : Cursor) (next : Number) :
    isRecorded unit constant = (enumeratorValue unit constant next).isOk := by
  unfold isRecorded
  rw [enumeratorValue_eq]
  rcases initial? unit constant with _ | ⟨_ | _⟩ <;> rfl

/-- The value of a constant that counts on from others. -/
theorem isInt_enumeratorValue_iff {next value : Number}
    (h : enumeratorValue unit constant next = .ok value)
    (hnext : next.IsInt ↔ CountsIntegers unit kept) :
    value.IsInt ↔ CountsIntegers unit (kept ++ [constant]) := by
  rw [countsIntegers_concat]
  rw [enumeratorValue_eq, initial?_eq] at h
  cases hinitializer : initializer? unit constant with
  | none =>
    rw [hinitializer] at h
    obtain rfl : next = value := Except.ok.inj h
    exact hnext
  | some tokens =>
    rw [hinitializer] at h
    cases hresult : evaluateTokens tokens with
    | error error =>
      rw [Option.map_some, hresult] at h
      cases h
    | ok result =>
      rw [Option.map_some, hresult] at h
      obtain rfl : result.value = value := Except.ok.inj h
      exact Expression.evaluateTokens_isInt_iff hresult

/-- Constants that were read from declarations, none of which was left out. -/
structure ReadsConstants (unit : ParsedUnit) (prefixes : List String) (kept : List Cursor)
    (constants : List Enumerator) : Prop where
  names : constants.map (·.name) = kept.map (·.name prefixes)
  values : ∀ i c, constants[i]? = some c →
    (c.value.IsInt ↔ CountsIntegers unit (kept.take (i + 1)))

theorem ReadsConstants.length_eq {constants : List Enumerator}
    (h : ReadsConstants unit prefixes kept constants) : constants.length = kept.length := by
  simpa using congrArg List.length h.names

theorem ReadsConstants.concat {constants : List Enumerator}
    (h : ReadsConstants unit prefixes kept constants) {c : Enumerator}
    (hname : c.name = constant.name prefixes)
    (hvalue : c.value.IsInt ↔ CountsIntegers unit (kept ++ [constant])) :
    ReadsConstants unit prefixes (kept ++ [constant]) (constants ++ [c]) := by
  refine ⟨by simp [h.names, hname], fun i c' hc' => ?_⟩
  have hi : i < constants.length + 1 := by
    simpa using (List.getElem?_eq_some_iff.1 hc').1
  rcases Nat.lt_or_eq_of_le (Nat.le_of_lt_succ hi) with hlt | rfl
  · rw [List.getElem?_append_left hlt] at hc'
    rw [List.take_append_of_le_length (h.length_eq ▸ hlt)]
    exact h.values i c' hc'
  · rw [List.getElem?_concat_length] at hc'
    obtain rfl := Option.some.inj hc'
    rwa [List.take_of_length_le (by simp [h.length_eq])]

/-- All constants are integers exactly if no float is written in any of their initializers. -/
theorem ReadsConstants.forall_isInt_iff {constants : List Enumerator}
    (h : ReadsConstants unit prefixes kept constants) :
    (∀ c ∈ constants, c.value.IsInt) ↔
      ∀ constant ∈ kept, ∀ tokens, initializer? unit constant = some tokens →
        ∀ token ∈ tokens, isFloatLiteral token = false := by
  constructor
  · intro hall constant hconstant tokens htokens
    obtain ⟨i, hi, rfl⟩ := List.mem_iff_getElem.1 hconstant
    have hlt : i < constants.length := h.length_eq ▸ hi
    have hcounts := (h.values i _ (List.getElem?_eq_getElem hlt)).1 (hall _ (List.getElem_mem hlt))
    rw [List.take_add_one, List.getElem?_eq_getElem hi, Option.toList_some, countsIntegers_concat,
      htokens] at hcounts
    exact hcounts
  · intro hall c hc
    obtain ⟨i, hi, rfl⟩ := List.mem_iff_getElem.1 hc
    refine (h.values i _ (List.getElem?_eq_getElem hi)).2 fun tokens htokens => ?_
    obtain ⟨constant, hconstant, hinitializer⟩ :=
      List.mem_filterMap.1 (List.mem_of_getLast? htokens)
    exact hall constant (List.mem_of_mem_take hconstant) tokens hinitializer

/-- What has been read after some constants have been declared. -/
structure Counted (unit : ParsedUnit) (prefixes : List String) (declared : List Cursor)
    (read : Enumerators) : Prop where
  constants : ReadsConstants unit prefixes (declared.filter (isRecorded unit)) read.constants
  next : read.next.IsInt ↔ CountsIntegers unit (declared.filter (isRecorded unit))

/-- One constant more. -/
theorem Counted.add {declared : List Cursor} {read : Enumerators}
    (h : Counted unit prefixes declared read) (constant : Cursor) :
    Counted unit prefixes (declared ++ [constant]) (read.add unit prefixes texts constant) := by
  have hrecorded := isRecorded_eq unit constant read.next
  unfold Enumerators.add
  dsimp only
  cases hvalue : enumeratorValue unit constant read.next with
  | error error =>
    have hkept : (declared ++ [constant]).filter (isRecorded unit) =
        declared.filter (isRecorded unit) := by
      rw [List.filter_append, List.filter_singleton, hrecorded, hvalue]
      exact List.append_nil _
    constructor
    · rw [hkept]
      exact h.constants
    · rw [hkept]
      exact h.next
  | ok value =>
    have hkept : (declared ++ [constant]).filter (isRecorded unit) =
        declared.filter (isRecorded unit) ++ [constant] := by
      rw [List.filter_append, List.filter_singleton, hrecorded, hvalue]
      rfl
    have hint := isInt_enumeratorValue_iff hvalue h.next
    constructor
    · rw [hkept]
      exact h.constants.concat rfl hint
    · rw [hkept]
      exact (Number.isInt_succ value).trans hint

/-- The constants of an enumeration that are not left out. -/
def keptConstants (unit : ParsedUnit) (cursor : Cursor) : List Cursor :=
  (constantCursors unit cursor).filter (isRecorded unit)

theorem counted_enumerators (unit : ParsedUnit) (prefixes : List String) (texts : Comment.Texts)
    (cursor : Cursor) : Counted unit prefixes (constantCursors unit cursor)
      (enumerators unit prefixes texts cursor) := by
  have hfold : ∀ declared : List Cursor, Counted unit prefixes declared
      (declared.foldl (Enumerators.add unit prefixes texts) ⟨[], [], .int 0, cursor.location⟩) := by
    intro declared
    induction declared using List.reverseRecOn with
    | nil =>
      exact ⟨⟨rfl, fun i c hc => by simp at hc⟩, fun _ => countsIntegers_nil, fun _ => trivial⟩
    | append_singleton front last ih =>
      rw [List.foldl_append]
      exact ih.add last
  exact hfold _

/-! ## The constants in an index -/

/-- The constants of the enumeration at a position. -/
def enumeratorsOf (index : Index) (id : EntityId) : List Enumerator :=
  ((index.entity? id).map Entity.enumerators).getD []

variable {i j : Index} {id : EntityId} {r : Resolver} {s t : State}

theorem enumeratorsOf_of_entity? {e : Entity} (h : i.entity? id = some e) :
    enumeratorsOf i id = e.enumerators := by
  simp [enumeratorsOf, h]

theorem enumeratorsOf_modify {f : Entity → Entity} (h : ∀ e, (f e).enumerators = e.enumerators)
    (i : Index) (id : EntityId) : enumeratorsOf (i.modify id f) = enumeratorsOf i := by
  funext other
  rw [enumeratorsOf, Index.map_entity?_modify h, enumeratorsOf]

theorem enumeratorsOf_add {e : Entity} (h : e.enumerators = []) (i : Index) (key : Key) :
    enumeratorsOf (i.add key e).2 = enumeratorsOf i := by
  funext id
  rw [enumeratorsOf, Index.getD_entity?_add h, enumeratorsOf]

theorem enumeratorsOf_mentions (h : r.Mentions i j) : enumeratorsOf j = enumeratorsOf i := by
  cases h with
  | nothing => rfl
  | placeholder => exact enumeratorsOf_add rfl i _

theorem enumeratorsOf_placeholder {key : Key} {name : Name} {isUnion : Bool}
    (h : i.placeholder key name isUnion = .ok (id, j)) : enumeratorsOf j = enumeratorsOf i :=
  Index.of_placeholder h rfl (enumeratorsOf_add rfl i key)

/-- The constants at a position were read from a declaration of the enumeration that is there. -/
def ReadAt (r : Resolver) (index : Index) (id : EntityId) : Prop :=
  ∃ position, (r.unit.cursor position).kind = .enumDecl ∧
    index.lookup (r.unit.typeKey (r.unit.cursor position).type) = some id ∧
    ReadsConstants r.unit r.prefixes (keptConstants r.unit (r.unit.cursor position))
      (enumeratorsOf index id)

/-- They are so ever after, as long as nothing happens to them. -/
theorem ReadAt.growsTo (h : ReadAt r i id) (hgrows : i.GrowsTo j)
    (hsame : enumeratorsOf j id = enumeratorsOf i id) : ReadAt r j id := by
  obtain ⟨position, kind, bound, hread⟩ := h
  exact ⟨position, kind, hgrows.lookup bound, hsame ▸ hread⟩

/-! ## Steps -/

/-- Where an enumeration is filled from a declaration, the constants of others stay. -/
theorem enumerators_sets {position : Nat} {filled : EntityId} {e : Enumeration}
    (h : Sets (r.unit.typeKey (r.unit.cursor position).type) filled e i j)
    (kind : (r.unit.cursor position).kind = .enumDecl) {texts : Comment.Texts}
    (hconstants : e.constants =
      (enumerators r.unit r.prefixes texts (r.unit.cursor position)).constants) (id : EntityId) :
    enumeratorsOf j id = enumeratorsOf i id ∨ ReadAt r j id := by
  by_cases hid : id = filled
  · subst hid
    refine .inr ⟨position, kind, h.bound, ?_⟩
    rw [enumeratorsOf_of_entity? h.entity, Entity.enumerators, hconstants]
    exact (counted_enumerators r.unit r.prefixes texts _).constants
  · left
    rw [enumeratorsOf, h.others id hid, enumeratorsOf]

/-- **A step leaves constants alone or reads them from a declaration.** -/
theorem Step.enumerators (h : Step r s t) (id : EntityId) :
    enumeratorsOf t.index id = enumeratorsOf s.index id ∨ ReadAt r t.index id := by
  cases h with
  | warn => exact .inl rfl
  | breakOff => exact .inl rfl
  | resolve type =>
    exact .inl (congrFun (enumeratorsOf_mentions (Resolver.mentions_resolve type s.index)) id)
  | resolveMember type =>
    exact .inl (congrFun (enumeratorsOf_mentions (Resolver.mentions_resolveMember type s.index)) id)
  | declare kind known => exact .inl (congrFun (enumeratorsOf_placeholder known) id)
  | adoptName name =>
    exact .inl (congrFun (enumeratorsOf_modify (fun e => e.enumerators_adoptName name) _ _) id)
  | describe | addField | addMethod =>
    exact .inl (congrFun (enumeratorsOf_modify (fun e => e.enumerators_mapAggregate _) _ _) id)
  | addFunction | addCallback | addConstant => exact .inl (congrFun (enumeratorsOf_add rfl _ _) id)
  | @addEnumeration position texts description kind =>
    cases hfree : s.index.lookup (r.unit.typeKey (r.unit.cursor position).type) with
    | some taken => exact .inl (by rw [State.index_goTo, Index.add_of_taken hfree])
    | none => exact enumerators_sets (sets_add hfree _) kind rfl id
  | fillEnumeration texts description kind bound found empty =>
    exact enumerators_sets (sets_mapEnumeration bound found _) kind rfl id

/-- In a run constants are those that were there, or read from a declaration. -/
theorem Path.enumerators (h : Path r s t) {start : Index}
    (hs : ∀ i ∈ s.reached, ∀ id, enumeratorsOf i id = enumeratorsOf start id ∨ ReadAt r i id) :
    ∀ i ∈ t.reached, ∀ id, enumeratorsOf i id = enumeratorsOf start id ∨ ReadAt r i id :=
  h.provenance (fun _ _ step => step.enumerators)
    (fun _ _ _ hgrows hsame hread => hread.growsTo hgrows hsame) hs

/-- **Which constants are integers.**  Whatever is read, into any index and however this ends, in
every index on the way: the constants of an enumeration are those it has had from the start, or they
were read from a declaration of it.  Then they are the declared ones that are not left out, in
order, and

* one of them is an integer exactly if no literal with a point or an exponent, quotes aside, stands
  in the last initializer up to it, or there is no initializer;
* so all of them are exactly if no such literal stands in any of their initializers. -/
theorem reached_integers (config : Config) (unit : ParsedUnit) (visible : List String)
    (start : Index) :
    ∀ index ∈ (readUnit config unit visible (.startingFrom start)).2.reached,
      ∀ id e, index.entity? id = some (.enumeration e) →
        e.constants = enumeratorsOf start id ∨
          ∃ position, (unit.cursor position).kind = .enumDecl ∧
            index.lookup (unit.typeKey (unit.cursor position).type) = some id ∧
            let kept := keptConstants unit (unit.cursor position)
            e.constants.map (·.name) = kept.map (·.name config.prefixes) ∧
            (∀ i c, e.constants[i]? = some c →
              (c.value.IsInt ↔ CountsIntegers unit (kept.take (i + 1)))) ∧
            ((∀ c ∈ e.constants, c.value.IsInt) ↔ ∀ constant ∈ kept, ∀ tokens,
              initializer? unit constant = some tokens →
                ∀ token ∈ tokens, isFloatLiteral token = false) := by
  intro index hindex id e he
  have path := readUnit_path config unit visible (.startingFrom start)
  have hconstants : enumeratorsOf index id = e.constants := enumeratorsOf_of_entity? he
  have hstart : ∀ i ∈ (State.startingFrom start).reached, ∀ id,
      enumeratorsOf i id = enumeratorsOf start id ∨
        ReadAt ⟨unit, config.prefixes, visible⟩ i id := by
    intro i hi id
    obtain rfl := List.mem_singleton.1 hi
    exact .inl rfl
  rcases path.enumerators hstart index hindex id with hsame | ⟨position, kind, bound, hread⟩
  · exact .inl (hconstants ▸ hsame)
  · rw [hconstants] at hread
    exact .inr ⟨position, kind, bound, hread.names, hread.values, hread.forall_isInt_iff⟩

/-- `enum E { A, B = '1.5', C };` -/
def quotedDecimal : ParsedUnit where
  files := #["e.h"]
  tokens := #[[⟨.keyword, "enum", 0, 4, 1⟩, ⟨.identifier, "E", 5, 6, 1⟩,
    ⟨.punctuation, "\x7b", 7, 8, 1⟩,
    ⟨.identifier, "A", 9, 10, 1⟩, ⟨.punctuation, ",", 10, 11, 1⟩,
    ⟨.identifier, "B", 12, 13, 1⟩, ⟨.punctuation, "=", 14, 15, 1⟩, ⟨.literal, "'1.5'", 16, 21, 1⟩,
    ⟨.punctuation, ",", 21, 22, 1⟩, ⟨.identifier, "C", 23, 24, 1⟩,
    ⟨.punctuation, "\x7d", 25, 26, 1⟩, ⟨.punctuation, ";", 26, 27, 1⟩]]
  cursors := #[
    { Cursor.missing with
      kind := .enumDecl, spelling := "E", location := ⟨some 0, 5, 1⟩, start := ⟨some 0, 0, 1⟩
      stop := ⟨some 0, 26, 1⟩, type := some 0, children := [1, 2, 4], isDefinition := true },
    { Cursor.missing with
      kind := .enumConstantDecl, spelling := "A", location := ⟨some 0, 9, 1⟩ },
    { Cursor.missing with
      kind := .enumConstantDecl, spelling := "B", location := ⟨some 0, 12, 1⟩, children := [3] },
    { Cursor.missing with start := ⟨some 0, 16, 1⟩, stop := ⟨some 0, 21, 1⟩ },
    { Cursor.missing with
      kind := .enumConstantDecl, spelling := "C", location := ⟨some 0, 23, 1⟩ }]
  types := #[{ SourceType.missing with kind := .enum, spelling := "enum E", declaration := some 0 }]
  top := [0]
  includes := []
  diagnostics := []

/-- What is read from `quotedDecimal`. -/
def readDecimal : Enumeration where
  name := ⟨["e"], some "E"⟩
  constants := [⟨⟨["a"], some "A"⟩, .int 0, []⟩, ⟨⟨["b"], some "B"⟩, .float 1.5, []⟩,
    ⟨⟨["c"], some "C"⟩, .float 2.5, []⟩]
  description := []

/-- The constant in front of the initializer is an integer, the one behind it is none. -/
theorem reached_integers_quotedDecimal :
    let config : Config :=
      ⟨Settings.minimal "e" [.path "e.h"], by decide, by simp [Settings.minimal]⟩
    let run := (readUnit config quotedDecimal ["e.h"] (.startingFrom .empty)).2
    run.index ∈ run.reached ∧ run.index.entity? 0 = some (.enumeration readDecimal) ∧
      ∃ position, (quotedDecimal.cursor position).kind = .enumDecl ∧
        let kept := keptConstants quotedDecimal (quotedDecimal.cursor position)
        kept.map (·.name config.prefixes) = readDecimal.constants.map (·.name) ∧
          CountsIntegers quotedDecimal (kept.take 1) ∧
          ¬ CountsIntegers quotedDecimal (kept.take 3) := by
  intro config run
  have hentity : run.index.entity? 0 = some (.enumeration readDecimal) := by decide +kernel
  obtain hstart | ⟨position, kind, _, hnames, hvalues, _⟩ :=
    reached_integers config quotedDecimal ["e.h"] .empty run.index run.index_mem_reached 0 _ hentity
  · cases hstart
  · exact ⟨run.index_mem_reached, hentity, position, kind, hnames.symm,
      (hvalues 0 _ rfl).1 trivial, fun hcounts => (hvalues 2 _ rfl).2 hcounts⟩

/-- A character constant of three characters is recorded as a float. -/
theorem float_recorded :
    let config : Config :=
      ⟨Settings.minimal "e" [.path "e.h"], by decide, by simp [Settings.minimal]⟩
    let run := readUnit config quotedDecimal ["e.h"] (.startingFrom .empty)
    run.1 = .ok () ∧ run.2.index ∈ run.2.reached ∧
      run.2.index.entity? 0 = some (.enumeration readDecimal) ∧
      readDecimal.constants.map (·.value) = [.int 0, .float 1.5, .float 2.5] ∧
      ¬ ∀ c ∈ readDecimal.constants, c.value.IsInt := by
  refine ⟨by decide +kernel, State.index_mem_reached _, by decide +kernel, rfl, fun hall => ?_⟩
  exact hall ⟨⟨["b"], some "B"⟩, .float 1.5, []⟩ (by simp [readDecimal])

end Reader

end HeaderIndex
