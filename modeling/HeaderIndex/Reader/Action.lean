import HeaderIndex.Expression.Evaluation
import HeaderIndex.Index.Text
import HeaderIndex.Resolve

/-!
# Steps of reading

Reading fills an index and gives warnings.  A step may fail, and what was read before stays then.
The state keeps every index that the reading has passed through, so that what holds at each point of
a run can be said about one value.  It also keeps what a reading that is broken off by a literal of
too many digits had told until then; what declarations mean does not depend on that limit.
-/

namespace HeaderIndex.Reader

/-- A value that could not be worked out. -/
inductive Warning where
  | enumerator (spelling : String) (error : EvaluationError)
  | ofMacro (spelling : String) (error : EvaluationError)
  deriving DecidableEq, Repr

/-- The text of a warning. -/
def Warning.text : Warning → String
  | enumerator spelling error =>
    "Warning: Could not process value of enum constant \"" ++ spelling ++ "\" (" ++ error.message ++ ")"
  | ofMacro spelling error =>
    "Warning: Could not process value of macro \"" ++ spelling ++ "\" (" ++ error.message ++ ")"

/-- A top-level declaration, for messages. -/
structure Place where
  file : String
  line : Nat
  spelling : String
  deriving DecidableEq, Repr

/-- Why a reading fails. -/
inductive ReadError where
  /-- a type without counterpart, in a declaration if that is known -/
  | type (place : Option Place) (error : TypeError)
  /-- an aggregate that has fields already, by its text -/
  | duplicateDefinition (aggregate : String)
  /-- a key for an aggregate that leads to something else, by the texts of both -/
  | keyTaken (key : String) (entity : String)
  /-- declarations nested in each other without end -/
  | endlessNesting
  /-- a literal that has too many digits to be written into an expression -/
  | overlong
  deriving DecidableEq, Repr

/-- The text of an error. -/
def ReadError.message : ReadError → String
  | type none error => error.message
  | type (some place) error =>
    place.file ++ ":" ++ toString place.line ++ ": in declaration of " ++
      Text.quoted place.spelling ++ ": " ++ error.message
  | duplicateDefinition aggregate => aggregate ++ " is defined more than once"
  | keyTaken key entity => key ++ " is already bound to " ++ entity
  | endlessNesting => ""
  | overlong => Numeral.unwritable

/-- What has been read so far. -/
structure State where
  index : Index
  /-- the indexes passed through on the way, the latest first -/
  earlier : List Index
  /-- the latest first -/
  warnings : List Warning
  /-- the warnings that had been given, the latest first, when a literal came up that has too many digits.
  Nothing that is read behind it counts -/
  cut : Option (List Warning)
  deriving Repr

/-- Nothing has been read. -/
def State.initial : State := ⟨.empty, [], [], none⟩

/-- All indexes of a run, the latest first. -/
def State.reached (state : State) : List Index := state.index :: state.earlier

/-- A step of reading: its result or its failure, and the state after it. -/
def Action (α : Type) := State → Except ReadError α × State

namespace Action

/-- The step that does nothing. -/
protected def pure {α : Type} (a : α) : Action α := fun state => (.ok a, state)

/-- One step after the other; a failure ends both. -/
protected def bind {α β : Type} (first : Action α) (next : α → Action β) : Action β := fun state =>
  match first state with
  | (.ok a, state) => next a state
  | (.error error, state) => (.error error, state)

instance : Monad Action where
  pure := Action.pure
  bind := Action.bind

/-- The step that fails. -/
def fail {α : Type} (error : ReadError) : Action α := fun state => (.error error, state)

/-- The index read so far. -/
def index : Action Index := fun state => (.ok state.index, state)

/-- Goes on to another index. -/
def goTo (index : Index) : Action Unit := fun state =>
  (.ok (), { state with index, earlier := state.index :: state.earlier })

/-- Changes the index. -/
def update (f : Index → Index) : Action Unit := fun state => goTo (f state.index) state

/-- Gives warnings. -/
def warn (warnings : List Warning) : Action Unit := fun state =>
  (.ok (), { state with warnings := warnings.reverse ++ state.warnings })

/-- Breaks the reading off, unless there is no reason to: with the reason come the last warnings that are
given.  The first time counts. -/
def breakOff (reason : Option (List Warning)) : Action Unit := fun state =>
  (.ok (), { state with cut := state.cut <|> reason.map (·.reverse ++ state.warnings) })

/-- Adds an entity under a key unless the key is taken; the entity under it then. -/
def add (key : Key) (entity : Entity) : Action EntityId := fun state =>
  let (id, index) := state.index.add key entity
  match goTo index state with
  | (_, state) => (.ok id, state)

/-- The aggregate under a key, made as a placeholder if the key is free. -/
def placeholder (key : Key) (name : Name) (isUnion : Bool) : Action EntityId := fun state =>
  match state.index.placeholder key name isUnion with
  | .ok (id, index) =>
    match goTo index state with
    | (_, state) => (.ok id, state)
  | .error conflict =>
    (.error (.keyTaken conflict.key.text (state.index.entityText conflict.id)), state)

/-- Resolves a type. -/
def resolve {α : Type} (resolution : Resolution α) : Action α := fun state =>
  let (result, index) := resolution state.index
  match goTo index state with
  | (_, state) =>
    match result with
    | .ok a => (.ok a, state)
    | .error error => (.error (.type none error), state)

/-- Runs a step and says of a type error in which declaration it arose. -/
def inDeclaration {α : Type} (place : Place) (action : Action α) : Action α := fun state =>
  match action state with
  | (.error (.type none error), state) => (.error (.type (some place) error), state)
  | result => result

/-- Runs a step for each item of a list. -/
def each {α : Type} (items : List α) (step : α → Action Unit) : Action Unit :=
  match items with
  | [] => Action.pure ()
  | item :: rest => Action.bind (step item) fun _ => each rest step

/-- Runs a step for each item of a list and lists the results. -/
def collect {α β : Type} (items : List α) (step : α → Action β) : Action (List β) :=
  match items with
  | [] => Action.pure []
  | item :: rest =>
    Action.bind (step item) fun first =>
      Action.bind (collect rest step) fun more => Action.pure (first :: more)

end Action

end HeaderIndex.Reader
