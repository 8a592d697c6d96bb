import HeaderIndex.Config
import HeaderIndex.Name.Method
import HeaderIndex.Reader.Aggregate

/-!
# Reading functions, callbacks and macros

A function becomes a method of the aggregate behind its first parameter if its name starts with that
of the aggregate.  A typedef of a pointer to a function becomes a callback; any other typedef only
gives its name to what it declares.  A macro with a value becomes a constant.
-/

namespace HeaderIndex.Reader

/-- A parameter under its own name, or without one under the name of its type. -/
def parameterOf (index : Index) (name : Name) (type : CType) (isArray : Bool) : Parameter :=
  ⟨if name.isEmpty then index.nameOf type else name, type, isArray, []⟩

/-- The text about a parameter: the one under its spelling, or else the one in its position if there
are as many texts as parameters. -/
def parameterText (texts : Comment.Texts) (count position : Nat) (name : Name) : List String :=
  match texts.get? (name.raw.getD "") with
  | some text => text
  | none => if texts.length = count then ((texts[position]?).map (·.2)).getD [] else []

/-- Parameters with the texts about them. -/
def describe (texts : Comment.Texts) (parameters : List Parameter) : List Parameter :=
  parameters.mapIdx fun position p =>
    { p with description := parameterText texts parameters.length position p.name }

/-- Texts are found by spellings and positions, so it makes no difference to them what else is changed
about the parameters. -/
theorem map_describe {f : Parameter → Parameter} (hname : ∀ p, (f p).name.raw = p.name.raw)
    (hdescription : ∀ p description, f { p with description } = { f p with description })
    (texts : Comment.Texts) (parameters : List Parameter) :
    (describe texts parameters).map f = describe texts (parameters.map f) := by
  refine List.ext_getElem (by simp [describe]) fun n h₁ h₂ => ?_
  simp only [describe, List.getElem_map, List.getElem_mapIdx, List.length_map]
  rw [parameterText, parameterText, hname]
  exact hdescription _ _

/-- Reads the declaration of a parameter.  Any bracket among its tokens makes it an array. -/
def readParameter (r : Resolver) (cursor : Cursor) : Action Parameter := do
  let type ← Action.resolve (r.resolve cursor.type)
  let isArray := (r.unit.tokensOf cursor).any (·.spelling = "[")
  return parameterOf (← Action.index) (cursor.name r.prefixes) type isArray

/-- The declarations of parameters among the children of a cursor. -/
def parameterCursors (unit : ParsedUnit) (cursor : Cursor) : List Cursor :=
  (cursor.children.map unit.cursor).filter (·.kind = .parameterDecl)

/-- Lists a function with the aggregate behind its first parameter, if their names agree. -/
def groupMethod (r : Resolver) (function : EntityId) (name : Name) (first : TypeRef) : Action Unit := do
  let index ← Action.index
  match r.pointeeAggregate? first index with
  | some owner =>
    match (nameOf index owner).method? name with
    | some short =>
      Action.update (·.modify owner (Entity.mapAggregate fun a =>
        { a with methods := a.methods ++ [⟨short, function⟩] }))
    | none => return ()
  | none => return ()

/-- Reads a function, unless it is in the index. -/
def readFunction (config : Config) (r : Resolver) (position : Nat) (comment : List String) :
    Action Unit := do
  let cursor := r.unit.cursor position
  let key := Key.function (r.unit.canonicalCursor position)
  if (← Action.index).contains key then return ()
  let name := cursor.name r.prefixes
  let parts := Comment.splitFunction comment
  let result ← Action.resolve (r.resolve cursor.result)
  let declared := parameterCursors r.unit cursor
  let parameters ← Action.collect declared (readParameter r)
  let id ← Action.add key (.callable {
    name, result
    parameters := describe parts.parameters parameters
    isCallback := false
    isBlocking := config.isBlocking cursor.spelling
    description := parts.description
    resultDescription := parts.result })
  match declared with
  | [] => return ()
  | first :: _ => groupMethod r id name first.type

/-- Reads a parameter of a callback, of which there may be no more than the type. -/
def readCallbackParameter (r : Resolver) (argument : TypeRef × Option Cursor) : Action Parameter := do
  match argument with
  | (type, none) =>
    let type ← Action.resolve (r.resolve type)
    return parameterOf (← Action.index) ⟨[], none⟩ type false
  | (_, some cursor) =>
    let type ← Action.resolve (r.resolve cursor.type)
    return parameterOf (← Action.index) (cursor.name r.prefixes) type false

/-- The type of the function that a callback points to: as spelled if that is a prototype, else
without typedefs. -/
def prototype (unit : ParsedUnit) (underlying : TypeRef) : SourceType :=
  let spelled := unit.type (unit.type underlying).pointee
  if spelled.kind = .functionPrototype then spelled
  else unit.type (unit.type (unit.canonicalType underlying)).pointee

/-- The types of a prototype's arguments with the declarations of the parameters, which are only used
if there is one for each argument. -/
def callbackArguments (unit : ParsedUnit) (function : SourceType) (cursor : Cursor) :
    List (TypeRef × Option Cursor) :=
  let types := if function.kind = .functionPrototype then function.arguments else []
  let declared := parameterCursors unit cursor
  if declared.length = types.length then types.zip (declared.map some)
  else types.map fun type => (type, none)

/-- Reads a callback, which stands in the index under its typedef unless that is taken. -/
def readCallback (r : Resolver) (cursor : Cursor) (comment : List String) : Action Unit := do
  let function := prototype r.unit cursor.underlying
  let parts := Comment.splitFunction comment
  let result ← Action.resolve (r.resolve function.result)
  let parameters ← Action.collect (callbackArguments r.unit function cursor) (readCallbackParameter r)
  let _ ← Action.add (r.unit.typeKey cursor.type) (.callable {
    name := cursor.name r.prefixes
    result
    parameters := describe parts.parameters parameters
    isCallback := true
    isBlocking := false
    description := parts.description
    resultDescription := parts.result })
  return ()

/-- Whether a type is a pointer to a function. -/
def isFunctionPointer (unit : ParsedUnit) (type : TypeRef) : Bool :=
  let canonical := unit.type (unit.canonicalType type)
  canonical.kind = .pointer && (unit.type canonical.pointee).kind.isFunction

/-- Reads a typedef. -/
def readTypedef (r : Resolver) (cursor : Cursor) (comment : List String) : Action Unit :=
  if isFunctionPointer r.unit cursor.underlying then readCallback r cursor comment
  else
    match cursor.children with
    | [child] => donateName r (r.unit.cursor child).type (cursor.name r.prefixes)
    | _ => Action.pure ()

/-- Whether the tokens of a macro start with a parameter list: a parenthesis right behind the name. -/
def isFunctionLike : List Token → Bool
  | name :: second :: _ => second.spelling = "(" && second.start = name.stop
  | _ => false

/-- The reason to break a reading off where a sequence of tokens is evaluated: a literal in it has too
many digits. -/
def overlongReason (tokens : List (TokenKind × String)) : Option (List Warning) :=
  if meetsOverlong tokens then some [] else none

/-- Reads a macro, unless one with its spelling is in the index. -/
def readMacro (r : Resolver) (cursor : Cursor) : Action Unit := do
  let tokens := r.unit.tokensOf cursor
  let key := Key.ofMacro cursor.spelling
  if tokens.length ≤ 1 ∨ isFunctionLike tokens then return ()
  if (← Action.index).contains key then return ()
  let body := tokens.tail.map fun token => (token.kind, token.spelling)
  Action.breakOff (overlongReason body)
  match evaluateTokens body with
  | .ok evaluation =>
    let _ ← Action.add key (.constant ⟨cursor.name r.prefixes, evaluation.value⟩)
    return ()
  | .error error => Action.warn [.ofMacro cursor.spelling error]

end HeaderIndex.Reader
