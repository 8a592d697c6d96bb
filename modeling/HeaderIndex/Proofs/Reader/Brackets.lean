import HeaderIndex.Proofs.Reader.Run

/-!
# Which parameters are flagged as arrays

A parameter of a function is flagged as an array if a square bracket stands among the tokens of its
declaration.  That bracket may belong to something else in there: to a parameter of a function that it
points to, or to the array behind a pointer.

* `IsArray` — what the type says of a parameter, where `hasBracket` tests the tokens.
* `Step.functionAt`, `Path.functionAt` — a function in the index is never changed, and its flags are
  the tests on the parameters of its declaration.
* `reached_flags` — only arrays are flagged exactly if every declaration with a bracket declares one.
-/

namespace HeaderIndex

/-- Arrays with and without a length, constant or not. -/
def TypeKind.isArray (kind : TypeKind) : Bool :=
  kind ∈ [constantArray, incompleteArray, variableArray, dependentSizedArray]

namespace Reader

/-- Whether a type is that of an array, as it is spelled or without typedefs. -/
def IsArray (unit : ParsedUnit) (type : TypeRef) : Prop :=
  (unit.type type).kind.isArray = true ∨ (unit.type (unit.canonicalType type)).kind.isArray = true

instance (unit : ParsedUnit) (type : TypeRef) : Decidable (IsArray unit type) :=
  inferInstanceAs (Decidable (_ ∨ _))

/-- Whether the parameters that are flagged are declared with the types of arrays. -/
def FlagsArrays (unit : ParsedUnit) (declared : List Cursor) (parameters : List Parameter) : Prop :=
  List.Forall₂ (fun cursor p => p.isArray = true → IsArray unit cursor.type) declared parameters

/-! ## Functions in an index -/

/-- The function at a position. -/
def functionAt (index : Index) (id : EntityId) : Option Callable :=
  ((index.entity? id).map Entity.function?).getD none

variable {i j : Index} {id : EntityId} {r : Resolver} {s t : State} {f : Callable}

theorem functionAt_eq_some :
    functionAt i id = some f ↔ i.entity? id = some (.callable f) ∧ f.isCallback = false := by
  unfold functionAt
  cases i.entity? id with
  | none => simp
  | some e =>
    cases e with
    | callable c => cases hc : c.isCallback <;> simp [Entity.function?, hc] <;> grind
    | _ => simp [Entity.function?]

theorem functionAt_modify {g : Entity → Entity} (h : ∀ e, (g e).function? = e.function?) (i : Index)
    (id other : EntityId) : functionAt (i.modify id g) other = functionAt i other := by
  rw [functionAt, Index.map_entity?_modify h, functionAt]

theorem functionAt_add {e : Entity} (h : e.function? = none) (i : Index) (key : Key)
    (id : EntityId) : functionAt (i.add key e).2 id = functionAt i id := by
  rw [functionAt, Index.getD_entity?_add h, functionAt]

theorem functionAt_mentions (h : r.Mentions i j) (id : EntityId) :
    functionAt j id = functionAt i id := by
  cases h with
  | nothing => rfl
  | placeholder => exact functionAt_add rfl i _ id

/-! ## Flags -/

/-- The function at a position was read from a declaration of it: it stands under its key, and the
flags of its parameters are the tests on their declarations. -/
def FlaggedAt (r : Resolver) (index : Index) (id : EntityId) : Prop :=
  ∃ position f, (r.unit.cursor position).kind = .functionDecl ∧
    index.lookup (.function (r.unit.canonicalCursor position)) = some id ∧
    functionAt index id = some f ∧
    f.parameters.map (·.isArray) =
      (parameterCursors r.unit (r.unit.cursor position)).map (hasBracket r.unit)

/-- It is so ever after, as long as nothing happens to it. -/
theorem FlaggedAt.growsTo (h : FlaggedAt r i id) (hgrows : i.GrowsTo j)
    (hsame : functionAt j id = functionAt i id) : FlaggedAt r j id := by
  obtain ⟨position, f, kind, bound, hat, hflags⟩ := h
  exact ⟨position, f, kind, hgrows.lookup bound, hsame.trans hat, hflags⟩

theorem ReadFrom.map_isArray {position : Nat} (h : ReadFrom r s position f) :
    f.parameters.map (·.isArray) =
      (parameterCursors r.unit (r.unit.cursor position)).map (hasBracket r.unit) := by
  obtain ⟨_, _, hread⟩ := h
  obtain ⟨parameters, ⟨_, _, _, _, hparameters⟩, hdescribed⟩ := hread.signature
  rw [hdescribed, map_describe_of_eq (fun _ _ => rfl), hparameters.map_isArray]

/-- A function that is added under its key has the flags of its declaration. -/
theorem flaggedAt_add {position : Nat} (kind : (r.unit.cursor position).kind = .functionDecl)
    (function : f.isCallback = false) (read : ReadFrom r s position f)
    (hfree : i.lookup (.function (r.unit.canonicalCursor position)) = none) :
    FlaggedAt r (i.add (.function (r.unit.canonicalCursor position)) (.callable f)).2
      (i.add (.function (r.unit.canonicalCursor position)) (.callable f)).1 :=
  ⟨position, f, kind, i.lookup_add_self _ _,
    functionAt_eq_some.2 ⟨Index.entity?_add_of_free hfree _, function⟩,
    read.map_isArray⟩

/-- **A step leaves functions alone or reads one from a declaration.** -/
theorem Step.functionAt (h : Step r s t) (id : EntityId) :
    Reader.functionAt t.index id = Reader.functionAt s.index id ∨ FlaggedAt r t.index id := by
  have hsort := ofNoType_functions
  cases h with
  | warn => exact .inl rfl
  | breakOff => exact .inl rfl
  | resolve type => exact .inl (functionAt_mentions (Resolver.mentions_resolve type s.index) id)
  | resolveMember type =>
    exact .inl (functionAt_mentions (Resolver.mentions_resolveMember type s.index) id)
  | declare kind known =>
    exact .inl (Index.of_placeholder known rfl (functionAt_add rfl s.index _ id))
  | adoptName name => exact .inl (functionAt_modify (hsort.adoptName name) _ _ id)
  | describe | addField | addMethod =>
    exact .inl (functionAt_modify (hsort.mapAggregate _) _ _ id)
  | fillEnumeration => exact .inl (functionAt_modify (hsort.mapEnumeration _) _ _ id)
  | addEnumeration | addConstant => exact .inl (functionAt_add rfl _ _ id)
  | addCallback kind callback =>
    exact .inl (functionAt_add (by simp [Entity.function?, callback]) _ _ id)
  | @addFunction position f kind function read =>
    cases hfree : s.index.lookup (.function (r.unit.canonicalCursor position)) with
    | some taken => exact .inl (by rw [State.index_goTo, Index.add_of_taken hfree])
    | none =>
      by_cases hid : id = (s.index.add (.function (r.unit.canonicalCursor position)) (.callable f)).1
      · rw [hid]
        exact .inr (flaggedAt_add kind function read hfree)
      · left
        rw [State.index_goTo, Reader.functionAt, Index.entity?_add_of_ne hid, Reader.functionAt]

/-- In a run functions are those that were there, or read from a declaration. -/
theorem Path.functionAt (h : Path r s t) {start : Index}
    (hs : ∀ i ∈ s.reached, ∀ id,
      Reader.functionAt i id = Reader.functionAt start id ∨ FlaggedAt r i id) :
    ∀ i ∈ t.reached, ∀ id,
      Reader.functionAt i id = Reader.functionAt start id ∨ FlaggedAt r i id :=
  h.provenance (fun _ _ step => step.functionAt)
    (fun _ _ _ hgrows hsame hread => hread.growsTo hgrows hsame) hs

/-- Where flags are tests on tokens, only arrays are flagged exactly if only they pass the test. -/
theorem flagsArrays_iff {unit : ParsedUnit} {declared : List Cursor} {parameters : List Parameter}
    (h : parameters.map (·.isArray) = declared.map (hasBracket unit)) :
    FlagsArrays unit declared parameters ↔
      ∀ cursor ∈ declared, hasBracket unit cursor = true → IsArray unit cursor.type := by
  unfold FlagsArrays
  induction declared generalizing parameters with
  | nil =>
    rw [List.map_nil, List.map_eq_nil_iff] at h
    simp [h]
  | cons cursor rest ih =>
    cases parameters with
    | nil => cases h
    | cons p more =>
      rw [List.map_cons, List.map_cons, List.cons.injEq] at h
      rw [List.forall₂_cons, ih h.2, List.forall_mem_cons, h.1]

/-- **Which parameters are flagged.**  Whatever is read, into any index and however this ends, in every
index on the way: a function has been there from the start, or it was read from a declaration of it.
Then a parameter is flagged exactly if a bracket stands among the tokens of its declaration; so only
arrays are flagged exactly if every parameter with a bracket among its tokens has the type of one. -/
theorem reached_flags (config : Config) (unit : ParsedUnit) (visible : List String) (start : Index) :
    ∀ index ∈ (readUnit config unit visible (.startingFrom start)).2.reached,
      ∀ id f, index.entity? id = some (.callable f) → f.isCallback = false →
        start.entity? id = some (.callable f) ∨
          ∃ position, (unit.cursor position).kind = .functionDecl ∧
            index.lookup (.function (unit.canonicalCursor position)) = some id ∧
            let declared := parameterCursors unit (unit.cursor position)
            f.parameters.map (·.isArray) = declared.map (hasBracket unit) ∧
            (FlagsArrays unit declared f.parameters ↔
              ∀ cursor ∈ declared, hasBracket unit cursor = true → IsArray unit cursor.type) := by
  intro index hindex id f hentity function
  have path := readUnit_path config unit visible (.startingFrom start)
  have hfunction := functionAt_eq_some.2 ⟨hentity, function⟩
  have hstart : ∀ i ∈ (State.startingFrom start).reached, ∀ id,
      functionAt i id = functionAt start id ∨ FlaggedAt ⟨unit, config.prefixes, visible⟩ i id := by
    intro i hi id
    obtain rfl := List.mem_singleton.1 hi
    exact .inl rfl
  rcases path.functionAt hstart index hindex id with hsame | ⟨position, g, kind, bound, hat, hflags⟩
  · exact .inl ((functionAt_eq_some.1 (hsame ▸ hfunction)).1)
  · obtain rfl := Option.some.inj (hat.symm.trans hfunction)
    exact .inr ⟨position, kind, bound, hflags, flagsArrays_iff hflags⟩

/-- A function with an array and a number: `void sum(int values[], int count);`. -/
def arrayParameter : ParsedUnit where
  files := #["test.h"]
  tokens := #[[⟨.keyword, "void", 0, 4, 1⟩, ⟨.identifier, "sum", 5, 8, 1⟩,
    ⟨.punctuation, "(", 8, 9, 1⟩, ⟨.keyword, "int", 9, 12, 1⟩, ⟨.identifier, "values", 13, 19, 1⟩,
    ⟨.punctuation, "[", 19, 20, 1⟩, ⟨.punctuation, "]", 20, 21, 1⟩, ⟨.punctuation, ",", 21, 22, 1⟩,
    ⟨.keyword, "int", 23, 26, 1⟩, ⟨.identifier, "count", 27, 32, 1⟩, ⟨.punctuation, ")", 32, 33, 1⟩,
    ⟨.punctuation, ";", 33, 34, 1⟩]]
  cursors := #[
    { Cursor.missing with
      kind := .functionDecl, spelling := "sum", location := ⟨some 0, 5, 1⟩, start := ⟨some 0, 0, 1⟩
      stop := ⟨some 0, 33, 1⟩, result := some 0, children := [1, 2] },
    { Cursor.missing with
      kind := .parameterDecl, spelling := "values", location := ⟨some 0, 13, 1⟩
      start := ⟨some 0, 9, 1⟩, stop := ⟨some 0, 21, 1⟩, type := some 1 },
    { Cursor.missing with
      kind := .parameterDecl, spelling := "count", location := ⟨some 0, 27, 1⟩
      start := ⟨some 0, 23, 1⟩, stop := ⟨some 0, 32, 1⟩, type := some 2 }]
  types := #[
    { SourceType.missing with kind := .void, spelling := "void" },
    { SourceType.missing with kind := .incompleteArray, spelling := "int[]", element := some 2 },
    { SourceType.missing with kind := .int, spelling := "int" }]
  top := [0]
  includes := []
  diagnostics := []

/-- The array is flagged, the number is not. -/
theorem reached_flags_arrayParameter :
    let config : Config :=
      ⟨Settings.minimal "test" [.path "test.h"], by decide, by simp [Settings.minimal]⟩
    let run := (readUnit config arrayParameter ["test.h"] (.startingFrom .empty)).2
    let declared := parameterCursors arrayParameter (arrayParameter.cursor 0)
    run.index ∈ run.reached ∧
      ∃ f, run.index.entity? 0 = some (.callable f) ∧ f.isCallback = false ∧
        f.parameters.map (·.isArray) = [true, false] ∧
        FlagsArrays arrayParameter declared f.parameters := by
  intro config run declared
  have hread : (functionAt run.index 0).map (fun f => f.parameters.map (·.isArray)) =
      some [true, false] := by decide +kernel
  obtain ⟨f, hf, hflags⟩ := Option.map_eq_some_iff.1 hread
  obtain ⟨hentity, function⟩ := functionAt_eq_some.1 hf
  refine ⟨run.index_mem_reached, f, hentity, function, hflags, ?_⟩
  rcases reached_flags config arrayParameter ["test.h"] .empty run.index run.index_mem_reached 0 f
    hentity function with hstart | ⟨position, kind, -, -, harrays⟩
  · cases hstart
  · obtain rfl : position = 0 := by
      match position with
      | 0 => rfl
      | 1 | 2 | n + 3 => cases kind
    exact harrays.2 (by decide)

/-- A function with a pointer to a function that has an array:
`void on_event(void (*handler)(int values[]));`. -/
def handlerParameter : ParsedUnit where
  files := #["test.h"]
  tokens := #[[⟨.keyword, "void", 0, 4, 1⟩, ⟨.identifier, "on_event", 5, 13, 1⟩,
    ⟨.punctuation, "(", 13, 14, 1⟩, ⟨.keyword, "void", 14, 18, 1⟩, ⟨.punctuation, "(", 19, 20, 1⟩,
    ⟨.punctuation, "*", 20, 21, 1⟩, ⟨.identifier, "handler", 21, 28, 1⟩,
    ⟨.punctuation, ")", 28, 29, 1⟩, ⟨.punctuation, "(", 29, 30, 1⟩, ⟨.keyword, "int", 30, 33, 1⟩,
    ⟨.identifier, "values", 34, 40, 1⟩, ⟨.punctuation, "[", 40, 41, 1⟩,
    ⟨.punctuation, "]", 41, 42, 1⟩, ⟨.punctuation, ")", 42, 43, 1⟩, ⟨.punctuation, ")", 43, 44, 1⟩,
    ⟨.punctuation, ";", 44, 45, 1⟩]]
  cursors := #[
    { Cursor.missing with
      kind := .functionDecl, spelling := "on_event", location := ⟨some 0, 5, 1⟩
      start := ⟨some 0, 0, 1⟩, stop := ⟨some 0, 44, 1⟩, result := some 0, children := [1] },
    { Cursor.missing with
      kind := .parameterDecl, spelling := "handler", location := ⟨some 0, 21, 1⟩
      start := ⟨some 0, 14, 1⟩, stop := ⟨some 0, 43, 1⟩, type := some 1, children := [2] },
    { Cursor.missing with
      kind := .parameterDecl, spelling := "values", location := ⟨some 0, 34, 1⟩
      start := ⟨some 0, 30, 1⟩, stop := ⟨some 0, 42, 1⟩, type := some 5 }]
  types := #[
    { SourceType.missing with kind := .void, spelling := "void" },
    { SourceType.missing with kind := .pointer, spelling := "void (*)(int *)", pointee := some 2 },
    { SourceType.missing with
      kind := .functionPrototype, spelling := "void (int *)", result := some 0
      arguments := [some 3] },
    { SourceType.missing with kind := .pointer, spelling := "int *", pointee := some 4 },
    { SourceType.missing with kind := .int, spelling := "int" },
    { SourceType.missing with kind := .incompleteArray, spelling := "int[]", element := some 4 }]
  top := [0]
  includes := []
  diagnostics := []

/-- The pointer is flagged as an array. -/
theorem handler_flagged :
    let config : Config :=
      ⟨Settings.minimal "test" [.path "test.h"], by decide, by simp [Settings.minimal]⟩
    let declared := parameterCursors handlerParameter (handlerParameter.cursor 0)
    ∃ index f, (read config handlerParameter ["test.h"]).result = .ok index ∧ index.functions = [f] ∧
      f.parameters.map (·.isArray) = [true] ∧
      ¬ FlagsArrays handlerParameter declared f.parameters := by
  intro config declared
  have hread : ((read config handlerParameter ["test.h"]).result.toOption.map fun index =>
      index.functions.map fun f => f.parameters.map (·.isArray)) = some [[true]] := by decide +kernel
  cases hresult : (read config handlerParameter ["test.h"]).result with
  | error error => simp [hresult, Except.toOption] at hread
  | ok index =>
    rw [hresult] at hread
    obtain ⟨f, hfunctions, hflags⟩ :
        ∃ f, index.functions = [f] ∧ f.parameters.map (·.isArray) = [true] := by
      simpa [Except.toOption, List.map_eq_singleton_iff] using hread
    refine ⟨index, f, rfl, hfunctions, hflags, fun harrays => ?_⟩
    have hbracket : ∀ cursor ∈ declared, hasBracket handlerParameter cursor = true →
        IsArray handlerParameter cursor.type := (flagsArrays_iff hflags).1 harrays
    exact absurd hbracket (by decide)

end Reader

end HeaderIndex
