import HeaderIndex.Reader.Enumeration

/-!
# Reading structures and unions

`members` sorts out the declarations inside an aggregate: a field takes the nested declaration right
in front of it with it, and its description is the comment behind it on the same line or else the one
in front.  `readTag` reads an aggregate with everything nested in it, or an enumeration.
-/

namespace HeaderIndex.Reader

/-- A part of an aggregate. -/
inductive Member where
  /-- a declaration that no field follows -/
  | nested (cursor : Nat)
  /-- a field, with the declaration right in front of it -/
  | field (nested : Option Nat) (cursor : Nat) (description : List String)
  deriving DecidableEq, Repr

/-- The description of a field and the place behind which the comment of the next one stands, given
that place for this field and the location of what follows it. -/
def fieldComment (unit : ParsedUnit) (previous following : Location) (field : Cursor) :
    List String × Location :=
  let trailing := Comment.nearest unit .after field.stop following
  match trailing.filter (·.token.line = field.stop.line) with
  | some found => (Comment.lines found.token.spelling, found.token.stopIn found.file)
  | none => (Comment.linesBefore unit previous field.start, field.stop)

/-- Whether a cursor is a field. -/
def isField (unit : ParsedUnit) (position : Nat) : Bool :=
  (unit.cursor position).kind = .fieldDecl

/-- Whether a cursor is a part of an aggregate. -/
def isMember (unit : ParsedUnit) (position : Nat) : Bool :=
  isField unit position || (unit.cursor position).kind.isTag

/-- The location of the first of some cursors, or the end of the aggregate. -/
def followingLocation (unit : ParsedUnit) (stop : Location) : List Nat → Location
  | [] => stop
  | child :: _ => (unit.cursor child).location

/-- The parts of an aggregate among its children, where the first comment stands behind `previous`
and the aggregate ends at `stop`. -/
def membersFrom (unit : ParsedUnit) (stop : Location) : Location → List Nat → List Member
  | _, [] => []
  | previous, child :: rest =>
    if isField unit child then
      let (description, previous) :=
        fieldComment unit previous (followingLocation unit stop rest) (unit.cursor child)
      .field none child description :: membersFrom unit stop previous rest
    else
      match rest with
      | [] => [.nested child]
      | field :: more =>
        if isField unit field then
          let (description, previous) :=
            fieldComment unit previous (followingLocation unit stop more) (unit.cursor field)
          .field (some child) field description :: membersFrom unit stop previous more
        else .nested child :: membersFrom unit stop previous (field :: more)

/-- The parts of an aggregate. -/
def members (unit : ParsedUnit) (cursor : Cursor) : List Member :=
  membersFrom unit cursor.stop cursor.location (cursor.children.filter (isMember unit))

/-- The fields of the aggregate at a position. -/
def fieldsOf (index : Index) (id : EntityId) : List Field :=
  (((index.entity? id).bind Entity.aggregate?).map (·.fields)).getD []

/-- The name of the entity at a position. -/
def nameOf (index : Index) (id : EntityId) : Name :=
  ((index.entity? id).map (·.name)).getD .anonymous

/-- Gives the entity declared with a type a name, if it waits for one. -/
def donateName (r : Resolver) (type : TypeRef) (name : Name) : Action Unit := do
  match (← Action.index).get? (r.unit.typeKey type) with
  | some id => Action.update (·.adoptName id name)
  | none => return ()

/-- Reads a part of the aggregate at a position, `read` being the way to read nested declarations. -/
def readMember (r : Resolver) (read : Nat → Action Unit) (id : EntityId) : Member → Action Unit
  | .nested cursor => read cursor
  | .field nested cursor description => do
    let field := r.unit.cursor cursor
    let name := field.name r.prefixes
    match nested with
    | some inner => do
      read inner
      let owner := nameOf (← Action.index) id
      donateName r (r.unit.cursor inner).type (owner ++ name)
    | none => pure ()
    let type ← Action.resolve (r.resolveMember field.type)
    Action.update (·.modify id (Entity.mapAggregate fun a =>
      { a with fields := a.fields ++ [⟨name, type, description⟩] }))

/-- Why the definition of the aggregate at a position cannot begin: it has fields already. -/
def definitionError? (index : Index) (id : EntityId) : Option ReadError :=
  if fieldsOf index id ≠ [] then some (.duplicateDefinition (index.entityText id)) else none

theorem definitionError?_eq_some_iff {index : Index} {id : EntityId} {error : ReadError} :
    definitionError? index id = some error ↔
      fieldsOf index id ≠ [] ∧ error = .duplicateDefinition (index.entityText id) := by
  unfold definitionError?
  by_cases h : fieldsOf index id = []
  · simp [h]
  · rw [if_pos h, Option.some.injEq, eq_comm]
    exact (and_iff_right h).symm

theorem definitionError?_eq_none_iff {index : Index} {id : EntityId} :
    definitionError? index id = none ↔ fieldsOf index id = [] := by
  unfold definitionError?
  by_cases h : fieldsOf index id = [] <;> simp [h]

/-- Reads an aggregate.  A declaration that is no definition only makes it known. -/
def readAggregate (r : Resolver) (read : Nat → Action Unit) (cursor : Cursor)
    (comment : List String) : Action Unit := do
  let name := cursor.name r.prefixes
  let id ← Action.placeholder (r.unit.typeKey cursor.type) name (cursor.kind = .unionDecl)
  Action.update (·.adoptName id name)
  if !cursor.isDefinition then return ()
  match definitionError? (← Action.index) id with
  | some error => Action.fail error
  | none =>
    Action.update (·.modify id (Entity.mapAggregate fun a =>
      { a with description := a.description ++ comment }))
    Action.each (members r.unit cursor) (readMember r read id)

/-- Reads a declaration with a tag in which others are nested at most `levels` deep. -/
def readTagWithin (r : Resolver) : Nat → Nat → List String → Action Unit
  | 0, _, _ => Action.fail .endlessNesting
  | levels + 1, position, comment =>
    let cursor := r.unit.cursor position
    if cursor.kind = .enumDecl then readEnumeration r cursor comment
    else readAggregate r (readTagWithin r levels · []) cursor comment

/-- How deep declarations can be nested: a chain that meets a declaration for the third time goes on
for ever. -/
def nestingLimit (unit : ParsedUnit) : Nat := 2 * unit.cursors.size + 2

/-- Reads a structure, union or enumeration with everything nested in it. -/
def readTag (r : Resolver) (position : Nat) (comment : List String) : Action Unit :=
  readTagWithin r (nestingLimit r.unit) position comment

end HeaderIndex.Reader
