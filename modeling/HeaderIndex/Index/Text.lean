import HeaderIndex.Index.Basic
import HeaderIndex.Number.Text
import HeaderIndex.Text.Quoted

/-!
# Entities and types in messages

Texts of entities look like C declarations.  A type is shown through the entity it refers to, as
that entity is at the time.
-/

namespace HeaderIndex

/-- The text of an aggregate. -/
def Aggregate.text (a : Aggregate) : String :=
  (if a.isUnion then "union " else "struct ") ++ a.name.display

/-- The text of an enumeration. -/
def Enumeration.text (e : Enumeration) : String := "enum " ++ e.name.display

/-- The text of a constant of an enumeration. -/
def Enumerator.text (e : Enumerator) : String := e.name.text ++ " = " ++ e.value.text

/-- The text of a constant. -/
def Constant.text (c : Constant) : String := "#define " ++ c.name.text ++ " " ++ c.value.text

/-- The text of a key. -/
def Key.text : Key → String
  | undeclared => "None"
  | type cursor => "('type', <cursor " ++ toString cursor ++ ">)"
  | function cursor => "('cursor', <cursor " ++ toString cursor ++ ">)"
  | ofMacro spelling => "('macro', " ++ Text.quoted spelling ++ ")"
  | custom text => Text.quoted text

namespace Index

/-- The text of a type, given the texts of the entities it may refer to. -/
def typeText (entityText : EntityId → String) : CType → String
  | .primitive word => word
  | .string => "string"
  | .byValue id => entityText id ++ " (by value)"
  | .pointer pointee depth => pointee.text ++ String.ofList (List.replicate depth '*')
  | .array element size => typeText entityText element ++ "[" ++ toString size ++ "]"
  | .entity id => entityText id
  | .unknown => "unknown"
  | .foreign text => text

/-- The text of a function, given the texts of the entities in its type. -/
def callableText (entityText : EntityId → String) (c : Callable) : String :=
  let parameters := c.parameters.map fun p => typeText entityText p.type ++ " " ++ p.name.text
  typeText entityText c.result ++ " " ++ c.name.text ++ "(" ++ ", ".intercalate parameters ++ ")"

/-- The text of an entity in which functions are nested at most `levels` deep. -/
def entityTextWithin (index : Index) : Nat → EntityId → String
  | 0, _ => "..."
  | levels + 1, id =>
    match index.entity? id with
    | some (.enumeration e) => e.text
    | some (.aggregate a) => a.text
    | some (.callable c) => callableText (index.entityTextWithin levels) c
    | some (.constant c) => c.text
    | none => ""

/-- The text of the entity at a position.  A function mentions only entities that are older than it,
so the nesting ends within the size of the store. -/
def entityText (index : Index) (id : EntityId) : String :=
  index.entityTextWithin (index.entities.length + 1) id

/-- The text of a type in an index. -/
def textOf (index : Index) (type : CType) : String := typeText index.entityText type

/-- The name of a type: that of the entity it refers to, or a word for its sort. -/
def nameOf (index : Index) : CType → Name
  | .primitive word => .ofWord word
  | .string => .ofWord "string"
  | .byValue id | .entity id => ((index.entity? id).map (·.name)).getD .anonymous
  | .pointer pointee _ => pointee
  | .array _ _ => .ofWord "array"
  | .unknown => .ofWord "unknown"
  | .foreign _ => .anonymous

/-- The text of a conflict. -/
def Conflict.message (index : Index) (conflict : Conflict) : String :=
  conflict.key.text ++ " is already bound to " ++ index.entityText conflict.id

/-- The text of an index as a whole. -/
def text (index : Index) : String :=
  "DeclarationIndex(" ++ toString index.size ++ " declarations)"

end Index

end HeaderIndex
