import HeaderIndex.Comment.Nearest
import HeaderIndex.Reader.Action

/-!
# Reading enumerations

The constants of an enumeration have the values of their initializers; one without an initializer is
one more than the constant recorded before it.  A constant whose initializer has no value is left out
with a warning.
-/

namespace HeaderIndex.Reader

/-- The constants read so far, the value of the next one without an initializer, and the place behind
which its comment stands. -/
structure Enumerators where
  constants : List Enumerator
  warnings : List Warning
  next : Number
  previous : Location
  deriving DecidableEq, Repr

/-- The value of a constant: that of its initializer, or else the given one. -/
def enumeratorValue (unit : ParsedUnit) (cursor : Cursor) (next : Number) :
    Except EvaluationError Number :=
  match cursor.children with
  | [] => .ok next
  | initializer :: _ => do
    let tokens := unit.tokensOf (unit.cursor initializer)
    return (← evaluateTokens (tokens.map fun token => (token.kind, token.spelling))).value

/-- Reads one constant, given the texts about constants in the comment of the enumeration. -/
def Enumerators.add (unit : ParsedUnit) (prefixes : List String) (texts : Comment.Texts)
    (read : Enumerators) (cursor : Cursor) : Enumerators :=
  let gap := Comment.linesBefore unit read.previous cursor.location
  let description := gap ++ (texts.get? cursor.spelling).getD []
  let read := { read with previous := cursor.location }
  match enumeratorValue unit cursor read.next with
  | .ok value =>
    { read with
      constants := read.constants ++ [⟨cursor.name prefixes, value, description⟩]
      next := value.succ }
  | .error error =>
    { read with warnings := read.warnings ++ [.enumerator cursor.spelling error] }

/-- Reads the constants of an enumeration. -/
def enumerators (unit : ParsedUnit) (prefixes : List String) (texts : Comment.Texts)
    (cursor : Cursor) : Enumerators :=
  let children := (cursor.children.map unit.cursor).filter (·.kind = .enumConstantDecl)
  children.foldl (Enumerators.add unit prefixes texts) ⟨[], [], .int 0, cursor.location⟩

/-- Whether the initializer of a constant has a literal with too many digits. -/
def hasOverlong (unit : ParsedUnit) (cursor : Cursor) : Bool :=
  match cursor.children with
  | [] => false
  | initializer :: _ =>
    meetsOverlong ((unit.tokensOf (unit.cursor initializer)).map fun token =>
      (token.kind, token.spelling))

/-- The warning about a constant whose initializer has no value. -/
def enumeratorWarning? (unit : ParsedUnit) (cursor : Cursor) : Option Warning :=
  match enumeratorValue unit cursor (.int 0) with
  | .ok _ => none
  | .error error => some (.enumerator cursor.spelling error)

/-- If the initializer of a constant has a literal with too many digits, the warnings about those in
front of it. -/
def enumeratorsCut (unit : ParsedUnit) (cursor : Cursor) : Option (List Warning) :=
  let children := (cursor.children.map unit.cursor).filter (·.kind = .enumConstantDecl)
  let front := children.takeWhile (!hasOverlong unit ·)
  if front.length = children.length then none
  else some (front.filterMap (enumeratorWarning? unit))

/-- Reads an enumeration, unless one with constants is in the index. -/
def readEnumeration (r : Resolver) (cursor : Cursor) (comment : List String) : Action Unit := do
  let key := r.unit.typeKey cursor.type
  let index ← Action.index
  let existing := (index.get? key).bind fun id =>
    ((index.entity? id).bind Entity.enumeration?).map fun e => (id, e)
  if existing.any fun (_, e) => !e.constants.isEmpty then return ()
  let parts := Comment.splitEnum comment
  Action.breakOff (enumeratorsCut r.unit cursor)
  let read := enumerators r.unit r.prefixes parts.constants cursor
  Action.warn read.warnings
  let name := cursor.name r.prefixes
  match existing with
  | some (id, _) =>
    Action.update (·.adoptName id name)
    Action.update (·.modify id (Entity.mapEnumeration fun e =>
      { e with constants := read.constants, description := parts.description }))
  | none =>
    let _ ← Action.add key (.enumeration ⟨name, read.constants, parts.description⟩)
    return ()

end HeaderIndex.Reader
