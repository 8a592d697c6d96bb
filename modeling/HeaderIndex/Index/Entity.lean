import HeaderIndex.Name
import HeaderIndex.Number

/-!
# Entities and types

What a header declares, in the form in which bindings for it are made.  Types refer to entities by
their position in the store of an index, so that a reference made before a definition was read
denotes what is defined later.
-/

namespace HeaderIndex

/-- The position of an entity in the store of an index. -/
abbrev EntityId := Nat

/-- The type of a field, a parameter or a result. -/
inductive CType where
  /-- `void`, `bool`, the integers, `float` and `double`, by one lower-case word -/
  | primitive (word : String)
  /-- a pointer to `char` -/
  | string
  /-- a structure or union that is copied -/
  | byValue (aggregate : EntityId)
  /-- a pointer to something without an entity, by the name of what it points to and the number of
  pointers down to it -/
  | pointer (pointee : Name) (depth : Nat)
  /-- an array of a fixed size -/
  | array (element : CType) (size : Int)
  /-- a pointer to an aggregate, an enumeration, or a pointer to a function -/
  | entity (id : EntityId)
  /-- a type about which nothing is known -/
  | unknown
  /-- something that is no type, shown as a text; a dump has no place for it -/
  | foreign (text : String)
  deriving DecidableEq, Repr

/-- A constant of an enumeration. -/
structure Enumerator where
  name : Name
  value : Number
  description : List String
  deriving DecidableEq, Repr

/-- An enumeration. -/
structure Enumeration where
  name : Name
  constants : List Enumerator
  description : List String
  deriving DecidableEq, Repr

/-- A member of a structure or union. -/
structure Field where
  name : Name
  type : CType
  description : List String
  deriving DecidableEq, Repr

/-- A function that is listed with the aggregate it works on, under a name of its own. -/
structure Method where
  name : Name
  function : EntityId
  deriving DecidableEq, Repr

/-- A structure or union.  One that was only mentioned so far has no fields. -/
structure Aggregate where
  name : Name
  isUnion : Bool
  description : List String
  fields : List Field
  methods : List Method
  deriving DecidableEq, Repr

/-- A parameter; `isArray` tells whether it was declared with brackets. -/
structure Parameter where
  name : Name
  type : CType
  isArray : Bool
  description : List String
  deriving DecidableEq, Repr

/-- A function, or a callback: a type of pointers to functions. -/
structure Callable where
  name : Name
  parameters : List Parameter
  result : CType
  isCallback : Bool
  isBlocking : Bool
  description : List String
  resultDescription : List String
  deriving DecidableEq, Repr

/-- A macro with a value. -/
structure Constant where
  name : Name
  value : Number
  deriving DecidableEq, Repr

/-- What a header declares. -/
inductive Entity where
  | enumeration (enumeration : Enumeration)
  | aggregate (aggregate : Aggregate)
  | callable (callable : Callable)
  | constant (constant : Constant)
  deriving DecidableEq, Repr

/-- An aggregate that was mentioned and not yet defined. -/
def Aggregate.placeholder (name : Name) (isUnion : Bool) : Aggregate := ⟨name, isUnion, [], [], []⟩

namespace Entity

/-- The name of an entity. -/
def name : Entity → Name
  | enumeration e => e.name
  | aggregate a => a.name
  | callable c => c.name
  | constant c => c.name

/-- The structure or union that an entity is. -/
def aggregate? : Entity → Option Aggregate
  | aggregate a => some a
  | _ => none

/-- The enumeration that an entity is. -/
def enumeration? : Entity → Option Enumeration
  | enumeration e => some e
  | _ => none

/-- The function or callback that an entity is. -/
def callable? : Entity → Option Callable
  | callable c => some c
  | _ => none

/-- The function that an entity is. -/
def function? : Entity → Option Callable
  | callable c => if c.isCallback then none else some c
  | _ => none

/-- The callback that an entity is. -/
def callback? : Entity → Option Callable
  | callable c => if c.isCallback then some c else none
  | _ => none

/-- The constant that an entity is. -/
def constant? : Entity → Option Constant
  | constant c => some c
  | _ => none

/-- Enumerations and aggregates can be declared without a name and get one later. -/
def canAdoptName : Entity → Bool
  | enumeration _ | aggregate _ => true
  | callable _ | constant _ => false

/-- An enumeration or aggregate without a name takes the given one; every other entity keeps its
own. -/
def adoptName (name : Name) : Entity → Entity
  | enumeration e => enumeration (if e.name.isEmpty then { e with name } else e)
  | aggregate a => aggregate (if a.name.isEmpty then { a with name } else a)
  | other => other

/-- Changes an aggregate and leaves every other entity alone. -/
def mapAggregate (f : Aggregate → Aggregate) : Entity → Entity
  | aggregate a => aggregate (f a)
  | other => other

/-- Changes an enumeration and leaves every other entity alone. -/
def mapEnumeration (f : Enumeration → Enumeration) : Entity → Entity
  | enumeration e => enumeration (f e)
  | other => other

end Entity

/-- The names of an enumeration's constants without what they share with its own name. -/
def Enumeration.shortNames (e : Enumeration) : List Name :=
  Name.shorten e.name (e.constants.map (·.name))

end HeaderIndex
