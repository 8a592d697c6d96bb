import HeaderIndex.Proofs.Reader.Brackets

/-!
# Functions and callbacks of one signature

A function and a typedef of a pointer to functions may have the same parameters and the same result.
They are read by two loops, of which only the one for functions looks for square brackets.

* `SameSignature` — a function and a typedef whose parameters are declared alike.
* `Mirrors` — an action does what another one does, and its result is an image of the other's.
* `Mentioning` — an action does nothing but mention types.
* `mirrors_signature` — reading a callback's signature mirrors reading the function's, where no
  parameter is flagged as an array.
* `read_alike` — so the two readings fail alike, or come to the same but for the flags.
-/

namespace HeaderIndex

/-- A parameter that is not flagged as an array. -/
def Parameter.unflagged (p : Parameter) : Parameter := { p with isArray := false }

/-- A callback of the same signature as a function, whose parameters are not flagged. -/
def Callable.asCallback (f : Callable) (name : Name) : Callable :=
  { f with
    name
    parameters := f.parameters.map Parameter.unflagged
    isCallback := true
    isBlocking := false }

/-- An aggregate without the functions that are listed with it. -/
def Aggregate.withoutMethods (a : Aggregate) : Aggregate := { a with methods := [] }

/-- An index in which no function is listed with an aggregate. -/
def Index.withoutMethods (index : Index) : Index :=
  { index with entities := index.entities.map (Entity.mapAggregate Aggregate.withoutMethods) }

namespace Reader

/-- Two declarations of parameters of the same type and name. -/
structure SameParameter (a b : Cursor) : Prop where
  type : a.type = b.type
  spelling : a.spelling = b.spelling

/-- A function and a typedef of a pointer to functions that have the same result and whose parameters
are declared alike, one for each argument. -/
structure SameSignature (unit : ParsedUnit) (function typedef : Cursor) : Prop where
  pointer : isFunctionPointer unit typedef.underlying = true
  prototyped : (prototype unit typedef.underlying).kind = .functionPrototype
  result : (prototype unit typedef.underlying).result = function.result
  arguments : (prototype unit typedef.underlying).arguments.length =
    (parameterCursors unit function).length
  parameters : List.Forall₂ SameParameter (parameterCursors unit function)
    (parameterCursors unit typedef)

variable {α β γ δ κ : Type} {r : Resolver}

/-! ## Actions that mirror others -/

/-- Whether an action does to every state what another one does, and comes to the image of its result
or to the same failure. -/
def Mirrors (f : α → β) (first : Action α) (second : Action β) : Prop :=
  ∀ s, second s = ((first s).1.map f, (first s).2)

section Mirrors

variable {f : α → β} {first : Action α} {second : Action β}

theorem Mirrors.same (action : Action α) : Mirrors id action action := by
  intro s
  cases h : (action s).1 <;> exact Prod.ext h rfl

theorem Mirrors.pure {a : α} {b : β} (h : f a = b) :
    Mirrors f (Pure.pure a : Action α) (Pure.pure b) :=
  fun _ => congrArg (fun b => (Except.ok b, _)) h.symm

theorem Mirrors.bind {g : γ → δ} {next : α → Action γ} {next' : β → Action δ}
    (h : Mirrors f first second) (hn : ∀ a, Mirrors g (next a) (next' (f a))) :
    Mirrors g (first >>= next) (second >>= next') := by
  intro s
  show Action.bind second next' s =
    ((Action.bind first next s).1.map g, (Action.bind first next s).2)
  unfold Action.bind
  rw [h s]
  rcases first s with ⟨error | a, t⟩
  · rfl
  · exact hn a t

/-- Mirrored steps for lists of items make a mirrored loop. -/
theorem Mirrors.collect {items : List κ} {items' : List γ} {step : κ → Action α}
    {step' : γ → Action β}
    (h : List.Forall₂ (fun item item' => Mirrors f (step item) (step' item')) items items') :
    Mirrors (List.map f) (Action.collect items step) (Action.collect items' step') := by
  induction h with
  | nil => exact Mirrors.pure rfl
  | cons hitem _ ih =>
    exact Mirrors.bind hitem fun first => Mirrors.bind ih fun more => Mirrors.pure rfl

end Mirrors

/-! ## Actions that only mention types -/

/-- From a state to the end of an action, types were mentioned and nothing else happened, and if the
action failed it was for a type. -/
structure MentionsOnly (r : Resolver) (s : State) (ending : Except ReadError α × State) : Prop where
  mentions : Relation.ReflTransGen r.Mentions s.index ending.2.index
  warnings : ending.2.warnings = s.warnings
  errors : ∀ error, ending.1 = .error error → ∃ cause, error = .type none cause

/-- Whether an action does nothing but mention types. -/
def Mentioning (r : Resolver) (action : Action α) : Prop := ∀ s, MentionsOnly r s (action s)

section Mentioning

variable {action : Action α}

theorem Mentioning.pure (a : α) : Mentioning r (Pure.pure a : Action α) :=
  fun _ => ⟨.refl, rfl, fun _ he => nomatch he⟩

theorem Mentioning.index : Mentioning r Action.index :=
  fun _ => ⟨.refl, rfl, fun _ he => nomatch he⟩

theorem Mentioning.resolve (type : TypeRef) : Mentioning r (Action.resolve (r.resolve type)) := by
  intro s
  refine ⟨?_, by rw [resolve_snd]; rfl, fun error he => ?_⟩
  · rw [resolve_snd]
    exact .single (Resolver.mentions_resolve type s.index)
  · unfold Action.resolve at he
    dsimp only [Action.goTo] at he
    split at he
    · cases he
    · cases he
      exact ⟨_, rfl⟩

theorem Mentioning.bind {next : α → Action β} (h : Mentioning r action)
    (hn : ∀ a, Mentioning r (next a)) : Mentioning r (action >>= next) := by
  intro s
  have hfirst := h s
  rcases bind_cases action next s with ⟨a, t, ha, heq⟩ | ⟨error, t, he, heq⟩
  · rw [ha] at hfirst
    rw [heq]
    have hnext := hn a t
    exact ⟨hfirst.mentions.trans hnext.mentions, hnext.warnings.trans hfirst.warnings, hnext.errors⟩
  · rw [he] at hfirst
    rw [heq]
    exact ⟨hfirst.mentions, hfirst.warnings, fun _ h => hfirst.errors _ (by cases h; rfl)⟩

theorem Mentioning.collect {items : List κ} {step : κ → Action α}
    (h : ∀ item, Mentioning r (step item)) : Mentioning r (Action.collect items step) := by
  induction items with
  | nil => exact Mentioning.pure []
  | cons item rest ih =>
    exact Mentioning.bind (h item) fun first => Mentioning.bind ih fun more => Mentioning.pure _

theorem mentioning_readParameter (cursor : Cursor) : Mentioning r (readParameter r cursor) :=
  Mentioning.bind (.resolve _) fun _ => Mentioning.bind .index fun _ => .pure _

end Mentioning

/-! ## Reading signatures -/

/-- Reads a result and parameters. -/
def readSignature (r : Resolver) (result : TypeRef) (items : List κ)
    (readItem : κ → Action Parameter) : Action (CType × List Parameter) :=
  Action.resolve (r.resolve result) >>= fun type =>
    Action.collect items readItem >>= fun parameters => pure (type, parameters)

/-- The signature of a function, read from its declaration. -/
def readDeclared (r : Resolver) (cursor : Cursor) : Action (CType × List Parameter) :=
  readSignature r cursor.result (parameterCursors r.unit cursor) (readParameter r)

/-- The signature of a callback, read from what its typedef points to. -/
def readPointee (r : Resolver) (cursor : Cursor) : Action (CType × List Parameter) :=
  let function := prototype r.unit cursor.underlying
  readSignature r function.result (callbackArguments r.unit function cursor) (readCallbackParameter r)

/-- What is recorded of a signature that is declared behind a comment. -/
def callableOf (r : Resolver) (cursor : Cursor) (comment : List String)
    (signature : CType × List Parameter) : Callable where
  name := cursor.name r.prefixes
  result := signature.1
  parameters := describe (Comment.splitFunction comment).parameters signature.2
  isCallback := false
  isBlocking := false
  description := (Comment.splitFunction comment).description
  resultDescription := (Comment.splitFunction comment).result

/-- What is recorded of a function. -/
def functionOf (config : Config) (r : Resolver) (cursor : Cursor) (comment : List String)
    (signature : CType × List Parameter) : Callable :=
  { callableOf r cursor comment signature with isBlocking := config.isBlocking cursor.spelling }

/-- What is recorded of a callback. -/
def callbackOf (r : Resolver) (cursor : Cursor) (comment : List String)
    (signature : CType × List Parameter) : Callable :=
  { callableOf r cursor comment signature with isCallback := true }

/-- Lists a function with the aggregate behind its first parameter, if it has parameters. -/
def groupFirst (r : Resolver) (cursor : Cursor) (id : EntityId) : Action Unit :=
  match parameterCursors r.unit cursor with
  | [] => pure ()
  | first :: _ => groupMethod r id (cursor.name r.prefixes) first.type

theorem bind_bind (action : Action α) (f : α → Action β) (g : β → Action γ) :
    action >>= f >>= g = action >>= fun a => f a >>= g := by
  funext s
  show Action.bind (Action.bind action f) g s = Action.bind action (fun a => Action.bind (f a) g) s
  unfold Action.bind
  rcases action s with ⟨error | a, t⟩ <;> rfl

/-- A function that is new is read, added and listed with an aggregate. -/
theorem readFunction_of_free {config : Config} {position : Nat} {comment : List String} {s : State}
    (free : s.index.lookup (.function (r.unit.canonicalCursor position)) = none) :
    readFunction config r position comment s =
      (readDeclared r (r.unit.cursor position) >>= fun signature =>
        Action.add (.function (r.unit.canonicalCursor position))
          (.callable (functionOf config r (r.unit.cursor position) comment signature)) >>=
        groupFirst r (r.unit.cursor position)) s := by
  have hnew : ¬ s.index.contains (.function (r.unit.canonicalCursor position)) = true := by
    simp [Index.contains, free]
  simp only [readDeclared, readSignature, bind_bind]
  exact congrFun (if_neg hnew) s

/-- A typedef of a pointer to functions is read and added. -/
theorem readTypedef_of_pointer {cursor : Cursor}
    (pointer : isFunctionPointer r.unit cursor.underlying = true) (comment : List String) :
    readTypedef r cursor comment = readPointee r cursor >>= fun signature =>
      Action.add (r.unit.typeKey cursor.type) (.callable (callbackOf r cursor comment signature)) >>=
      fun _ => pure () := by
  simp only [readPointee, readSignature, bind_bind]
  exact if_pos pointer

theorem mentioning_readDeclared (cursor : Cursor) : Mentioning r (readDeclared r cursor) :=
  Mentioning.bind (.resolve _) fun _ =>
    Mentioning.bind (.collect mentioning_readParameter) fun _ => .pure _

/-- The loop for functions tests each declaration for a bracket. -/
theorem isArray_readDeclared (cursor : Cursor) {s after : State} {signature : CType × List Parameter}
    (h : readDeclared r cursor s = (.ok signature, after)) :
    signature.2.map (·.isArray) = (parameterCursors r.unit cursor).map (hasBracket r.unit) := by
  have hread : Runs r (fun u => s.index = u.index) (readDeclared r cursor) fun signature u =>
      ReadsSignature r u s.index cursor signature.1 signature.2 :=
    Runs.bind (runs_resolve_at _) fun _ => Runs.bind (runs_readSignature _) fun _ =>
      Runs.pure fun _ hs => hs
  obtain ⟨_, _, _, _, hparameters⟩ := (hread s rfl).2 signature (by rw [h])
  exact hparameters.map_isArray

/-! ## The two loops -/

/-- Parameters that are declared alike have the same name. -/
theorem SameParameter.name {a b : Cursor} (same : SameParameter a b) (ha : a.kind = .parameterDecl)
    (hb : b.kind = .parameterDecl) (prefixes : List String) : b.name prefixes = a.name prefixes := by
  have htag : CursorKind.parameterDecl.isTag = false := rfl
  simp [Cursor.name, Cursor.isNameless, ha, hb, htag, same.spelling]

theorem mirrors_readParameter {a b : Cursor} (same : SameParameter a b)
    (ha : a.kind = .parameterDecl) (hb : b.kind = .parameterDecl) (type : TypeRef) :
    Mirrors Parameter.unflagged (readParameter r a) (readCallbackParameter r (type, some b)) := by
  unfold readParameter readCallbackParameter
  dsimp only
  rw [← same.type, same.name ha hb]
  refine Mirrors.bind (.same _) fun resolved => Mirrors.bind (.same _) fun index => Mirrors.pure rfl

theorem kind_of_mem_parameterCursors {unit : ParsedUnit} {cursor declared : Cursor}
    (h : declared ∈ parameterCursors unit cursor) : declared.kind = .parameterDecl := by
  simpa using (List.mem_filter.1 h).2

/-- The steps of the two loops, one by one. -/
theorem SameSignature.steps {function typedef : Cursor}
    (same : SameSignature r.unit function typedef) :
    List.Forall₂
      (fun a b => Mirrors Parameter.unflagged (readParameter r a) (readCallbackParameter r b))
      (parameterCursors r.unit function)
      (callbackArguments r.unit (prototype r.unit typedef.underlying) typedef) := by
  have hlength := same.parameters.length_eq
  have harguments : callbackArguments r.unit (prototype r.unit typedef.underlying) typedef =
      (prototype r.unit typedef.underlying).arguments.zip
        ((parameterCursors r.unit typedef).map some) := by
    unfold callbackArguments
    dsimp only
    rw [if_pos same.prototyped, if_pos (hlength.symm.trans same.arguments.symm)]
  rw [harguments, List.forall₂_iff_get]
  refine ⟨by simp [same.arguments, hlength], fun n h₁ h₂ => ?_⟩
  have hn : n < (parameterCursors r.unit typedef).length := hlength ▸ h₁
  have hsame := (List.forall₂_iff_get.1 same.parameters).2 n h₁ hn
  simp only [List.get_eq_getElem, List.getElem_zip, List.getElem_map] at hsame ⊢
  exact mirrors_readParameter hsame (kind_of_mem_parameterCursors (List.getElem_mem h₁))
    (kind_of_mem_parameterCursors (List.getElem_mem hn)) _

/-- **The loop for callbacks mirrors the one for functions**, with no parameter flagged. -/
theorem mirrors_signature {function typedef : Cursor}
    (same : SameSignature r.unit function typedef) :
    Mirrors (Prod.map id (List.map Parameter.unflagged)) (readDeclared r function)
      (readPointee r typedef) := by
  unfold readDeclared readPointee
  dsimp only
  rw [same.result]
  refine Mirrors.bind (.same _) fun type => ?_
  exact Mirrors.bind (Mirrors.collect same.steps) fun parameters => Mirrors.pure rfl

theorem callbackOf_unflagged (config : Config) (function typedef : Cursor) (comment : List String)
    (signature : CType × List Parameter) :
    callbackOf r typedef comment (Prod.map id (List.map Parameter.unflagged) signature) =
      (functionOf config r function comment signature).asCallback (typedef.name r.prefixes) := by
  simp only [callbackOf, functionOf, callableOf, Callable.asCallback, Prod.map, id,
    map_describe (f := Parameter.unflagged) (fun _ => rfl) (fun _ _ => rfl)]

/-! ## The two readings -/

/-- Whether an action changes nothing but methods, and does not fail. -/
def OnlyMethods (action : Action Unit) : Prop :=
  ∀ s, ∃ t, action s = (.ok (), t) ∧ t.index.withoutMethods = s.index.withoutMethods ∧
    t.warnings = s.warnings

theorem OnlyMethods.pure : OnlyMethods (Pure.pure ()) := fun s => ⟨s, rfl, rfl, rfl⟩

theorem OnlyMethods.bind_index {next : Index → Action Unit} (h : ∀ i, OnlyMethods (next i)) :
    OnlyMethods (Action.index >>= next) := fun s => h s.index s

theorem onlyMethods_addMethod (owner : EntityId) (m : Method) :
    OnlyMethods (Action.update (·.modify owner (Entity.mapAggregate fun a =>
      { a with methods := a.methods ++ [m] }))) := by
  intro s
  have hview : ∀ e : Entity, (e.mapAggregate fun a =>
      { a with methods := a.methods ++ [m] }).mapAggregate Aggregate.withoutMethods =
        e.mapAggregate Aggregate.withoutMethods := Entity.view_mapAggregate fun _ => rfl
  refine ⟨_, rfl, congrArg (Index.mk · s.index.bindings) ?_, rfl⟩
  rw [← List.filterMap_eq_map]
  refine filterMap_modify (fun e => ?_) s.index.entities owner
  exact congrArg some (hview e)

/-- Listing a function changes nothing but methods. -/
theorem onlyMethods_groupFirst (cursor : Cursor) (id : EntityId) :
    OnlyMethods (groupFirst r cursor id) := by
  unfold groupFirst
  split
  · exact .pure
  refine OnlyMethods.bind_index fun index => ?_
  split
  · split
    · exact onlyMethods_addMethod _ _
    · exact .pure
  · exact .pure

/-- When its signature has been read, a new function is added, and then nothing changes but methods. -/
theorem readFunction_of_declared {config : Config} {position : Nat} {comment : List String}
    {s after : State} {signature : CType × List Parameter}
    (free : s.index.lookup (.function (r.unit.canonicalCursor position)) = none)
    (h : readDeclared r (r.unit.cursor position) s = (.ok signature, after)) :
    ∃ t, readFunction config r position comment s = (.ok (), t) ∧
      t.index.withoutMethods = (after.index.add (.function (r.unit.canonicalCursor position))
        (.callable (functionOf config r (r.unit.cursor position) comment signature))).2.withoutMethods ∧
      t.warnings = after.warnings := by
  rw [readFunction_of_free free, bind_of_ok h]
  exact onlyMethods_groupFirst _ _ (after.goTo _)

theorem lookup_function_of_mentions {i j : Index} (h : Relation.ReflTransGen r.Mentions i j)
    (k : Nat) : j.lookup (.function k) = i.lookup (.function k) := by
  induction h with
  | refl => rfl
  | tail _ hlast ih =>
    rw [← ih]
    cases hlast with
    | nothing => rfl
    | placeholder => rw [Index.lookup_add, if_neg nofun, Option.or_none]

/-- What comes of reading one signature twice from one state: as that of a function `f`, declared at a
position, and as that of a callback.  In between there is the state after the signature was read. -/
structure ReadAlike (r : Resolver) (position typedef : Nat) (before after : State) (f : Callable)
    (function callback : Except ReadError Unit × State) : Prop where
  /-- reading the signature makes placeholders, the same ones both times -/
  mentions : Relation.ReflTransGen r.Mentions before.index after.index
  warnings : after.warnings = before.warnings
  free : after.index.lookup (.function (r.unit.canonicalCursor position)) = none
  flags : f.parameters.map (·.isArray) =
    (parameterCursors r.unit (r.unit.cursor position)).map (hasBracket r.unit)
  /-- then the function is added, and perhaps listed with an aggregate -/
  function_ending : ∃ t, function = (.ok (), t) ∧
    t.index.withoutMethods = (after.index.add (.function (r.unit.canonicalCursor position))
      (.callable f)).2.withoutMethods ∧
    t.warnings = after.warnings
  /-- or the callback, which has its own name and marks and nothing else that differs -/
  callback_ending : callback = (.ok (), after.goTo
    (after.index.add (r.unit.typeKey (r.unit.cursor typedef).type)
      (.callable (f.asCallback ((r.unit.cursor typedef).name r.prefixes)))).2)

/-- The parameters of a function are those of the callback exactly if none was flagged. -/
theorem parameters_asCallback_iff {f : Callable} {declared : List Cursor} {unit : ParsedUnit}
    (h : f.parameters.map (·.isArray) = declared.map (hasBracket unit)) (name : Name) :
    (f.asCallback name).parameters = f.parameters ↔
      ∀ cursor ∈ declared, hasBracket unit cursor = false := by
  have hflags : (∀ cursor ∈ declared, hasBracket unit cursor = false) ↔
      ∀ p ∈ f.parameters, p.isArray = false := by
    rw [← List.forall_mem_map (f := hasBracket unit) (P := (· = false)), ← h, List.forall_mem_map]
  have hsame : ∀ p : Parameter, p.unflagged = p ↔ p.isArray = false := by
    rintro ⟨name, type, isArray, description⟩
    simp [Parameter.unflagged, eq_comm]
  have hself : f.parameters.map Parameter.unflagged = f.parameters.map id ↔
      ∀ p ∈ f.parameters, p.unflagged = p := List.map_inj_left
  rw [hflags, ← forall₂_congr fun p _ => hsame p, ← hself, List.map_id]
  rfl

/-- **Functions and callbacks read their parameters alike, but for the flags.**  From the same state, a
function that is new and a typedef of a pointer to functions of the same signature either fail for the
same type in the same state, or come to the same placeholders and, under the same comment, the same
result, parameters and texts, except that no parameter of the callback is flagged as an array.  So the
parameters are the same exactly if no bracket stands in a declaration of one. -/
theorem read_alike (config : Config) {position typedef : Nat} {before : State}
    (same : SameSignature r.unit (r.unit.cursor position) (r.unit.cursor typedef))
    (free : before.index.lookup (.function (r.unit.canonicalCursor position)) = none)
    (comment : List String) :
    let function := readFunction config r position comment before
    let callback := readTypedef r (r.unit.cursor typedef) comment before
    (∃ cause after, function = (.error (.type none cause), after) ∧
        callback = (.error (.type none cause), after)) ∨
      ∃ f after, ReadAlike r position typedef before after f function callback ∧
        ((f.asCallback ((r.unit.cursor typedef).name r.prefixes)).parameters = f.parameters ↔
          ∀ cursor ∈ parameterCursors r.unit (r.unit.cursor position),
            hasBracket r.unit cursor = false) := by
  intro function callback
  have hmentions := mentioning_readDeclared (r := r) (r.unit.cursor position) before
  have hmirror := mirrors_signature same before
  have hcallback : callback = _ := congrFun (readTypedef_of_pointer same.pointer comment) before
  rcases hread : readDeclared r (r.unit.cursor position) before with ⟨error | signature, after⟩
  all_goals rw [hread] at hmentions hmirror
  · left
    have hfunction : function = _ := readFunction_of_free free
    obtain ⟨cause, rfl⟩ := hmentions.errors error rfl
    exact ⟨cause, after, hfunction.trans (bind_of_error hread _),
      hcallback.trans (bind_of_error hmirror _)⟩
  · right
    have hflags : (functionOf config r (r.unit.cursor position) comment signature).parameters.map
        (·.isArray) = _ :=
      (map_describe_of_eq (fun _ _ => rfl) _ _).trans (isArray_readDeclared _ hread)
    have hending := hcallback.trans (bind_of_ok hmirror _)
    rw [callbackOf_unflagged config (r.unit.cursor position)] at hending
    refine ⟨functionOf config r (r.unit.cursor position) comment signature, after, ?_,
      parameters_asCallback_iff hflags _⟩
    exact {
      mentions := hmentions.mentions
      warnings := hmentions.warnings
      free := (lookup_function_of_mentions hmentions.mentions _).trans free
      flags := hflags
      function_ending := readFunction_of_declared free hread
      callback_ending := hending }

/-- A function and a callback of the same signature, both with the one parameter that is given. -/
def twice (parameter : Cursor) : ParsedUnit where
  files := #["test.h"]
  tokens := #[[]]
  cursors := #[
    { Cursor.missing with
      kind := .functionDecl, spelling := "f", location := ⟨some 0, 5, 1⟩, result := some 0
      children := [1] },
    parameter,
    { Cursor.missing with
      kind := .typedefDecl, spelling := "cb", location := ⟨some 0, 32, 2⟩, type := some 2
      underlying := some 3, children := [3] },
    parameter]
  types := #[
    { SourceType.missing with kind := .void, spelling := "void" },
    { SourceType.missing with kind := .incompleteArray, spelling := "int[]", element := some 6 },
    { SourceType.missing with
      kind := .typedef, spelling := "cb", declaration := some 2, canonical := some 3 },
    { SourceType.missing with kind := .pointer, spelling := "void (*)(int *)", pointee := some 4 },
    { SourceType.missing with
      kind := .functionPrototype, spelling := "void (int *)", result := some 0
      arguments := [some 5] },
    { SourceType.missing with kind := .pointer, spelling := "int *", pointee := some 6 },
    { SourceType.missing with kind := .int, spelling := "int" }]
  top := [0, 2]
  includes := []
  diagnostics := []

/-- The parameter `int *a`. -/
def pointerToNumber : Cursor :=
  { Cursor.missing with
    kind := .parameterDecl, spelling := "a", type := some 5
    tokens := some [⟨.keyword, "int", 0, 3, 1⟩, ⟨.punctuation, "*", 4, 5, 1⟩,
      ⟨.identifier, "a", 5, 6, 1⟩] }

/-- The parameter `int a[]`. -/
def numbers : Cursor :=
  { Cursor.missing with
    kind := .parameterDecl, spelling := "a", type := some 1
    tokens := some [⟨.keyword, "int", 0, 3, 1⟩, ⟨.identifier, "a", 4, 5, 1⟩,
      ⟨.punctuation, "[", 5, 6, 1⟩, ⟨.punctuation, "]", 6, 7, 1⟩] }

/-- The two have the same signature, whatever the parameter is. -/
theorem sameSignature_twice {parameter : Cursor} (kind : parameter.kind = .parameterDecl) :
    SameSignature (twice parameter) ((twice parameter).cursor 0) ((twice parameter).cursor 2) := by
  have hparameters : parameterCursors (twice parameter) ((twice parameter).cursor 0) = [parameter] := by
    show [parameter].filter _ = _
    simp [kind]
  have htypedef : parameterCursors (twice parameter) ((twice parameter).cursor 2) = [parameter] :=
    hparameters
  exact {
    pointer := rfl
    prototyped := rfl
    result := rfl
    arguments := by rw [hparameters]; rfl
    parameters := by rw [hparameters, htypedef]; exact .cons ⟨rfl, rfl⟩ .nil }

/-- A pointer is read in the same way for both: `void f(int *a);` and `typedef void (*cb)(int *a);`. -/
theorem read_alike_pointerToNumber :
    let config : Config :=
      ⟨Settings.minimal "test" [.path "test.h"], by decide, by simp [Settings.minimal]⟩
    let r : Resolver := ⟨twice pointerToNumber, config.prefixes, ["test.h"]⟩
    let function := readFunction config r 0 [] .initial
    let callback := readTypedef r (r.unit.cursor 2) [] .initial
    ∃ f after, ReadAlike r 0 2 .initial after f function callback ∧
      (f.asCallback ⟨["cb"], some "cb"⟩).parameters = f.parameters := by
  intro config r function callback
  have hread : function.1.isOk = true := by decide +kernel
  rcases @read_alike r config 0 2 .initial (sameSignature_twice rfl) rfl [] with
    ⟨cause, after, hfailed, -⟩ | ⟨f, after, alike, hiff⟩
  · rw [show function = _ from hfailed] at hread
    cases hread
  · exact ⟨f, after, alike, hiff.2 (by decide)⟩

/-- An array is flagged in the function and not in the callback: `void f(int a[]);` and
`typedef void (*cb)(int a[]);`. -/
theorem callback_unflagged :
    let config : Config :=
      ⟨Settings.minimal "test" [.path "test.h"], by decide, by simp [Settings.minimal]⟩
    let flags (c : Callable) : List Bool := c.parameters.map (·.isArray)
    SameSignature (twice numbers) ((twice numbers).cursor 0) ((twice numbers).cursor 2) ∧
      ((read config (twice numbers) ["test.h"]).result.toOption.map fun index =>
        (index.functions.map flags, index.callbacks.map flags)) = some ([[true]], [[false]]) :=
  ⟨sameSignature_twice rfl, by decide +kernel⟩

end Reader

end HeaderIndex
