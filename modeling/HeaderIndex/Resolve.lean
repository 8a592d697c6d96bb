import HeaderIndex.Frontend.ParsedUnit
import HeaderIndex.Index.Basic
import HeaderIndex.Text.Occurrence

/-!
# Resolving types

`Resolver.resolve` gives the type under which a field, a parameter or a result is known to bindings.
The category of a type is that of its canonical form, without typedefs; the names of pointers follow
the types as they are spelled.  A pointer to a structure or union of a visible file that was not read
yet is answered by a placeholder, which is the only change that resolving makes to an index.

A chain of types refers at most once to each row of the table, so the levels that are walked down are
bounded by its size; a table that leads back to itself has no answer.
-/

namespace HeaderIndex

/-- Why a type has no counterpart. -/
inductive TypeError where
  /-- a category of types without counterpart, and the type as spelled -/
  | unsupported (kind : String) (spelling : String)
  /-- a type that contains itself -/
  | endless
  deriving DecidableEq, Repr

/-- The text of an error. -/
def TypeError.message : TypeError → String
  | .unsupported kind spelling =>
    "No translation for values of type " ++ kind ++ " (" ++ spelling ++ ")"
  | .endless => ""

/-! ## Names and keys of declarations -/

/-- Whether a declaration has no name that a user could write.  Front-ends spell some of them with a
remark instead. -/
def Cursor.isNameless (cursor : Cursor) : Bool :=
  cursor.spelling = "" || (cursor.kind.isTag &&
    (Text.occursIn "(anonymous".toList cursor.spelling.toList ||
      Text.occursIn "(unnamed".toList cursor.spelling.toList || cursor.isAnonymous))

/-- The name of a declaration. -/
def Cursor.name (prefixes : List String) (cursor : Cursor) : Name :=
  if cursor.kind = .noDeclaration ∨ cursor.isNameless then .anonymous
  else .split prefixes cursor.spelling

namespace ParsedUnit

/-- The key of a declared type: its first declaration. -/
def declarationKey (unit : ParsedUnit) (reference : Option Nat) : Key :=
  match reference with
  | none => .undeclared
  | some position =>
    if (unit.cursor position).kind = .noDeclaration then .undeclared
    else .type (unit.canonicalCursor position)

/-- The key of the declaration of a type. -/
def typeKey (unit : ParsedUnit) (type : TypeRef) : Key :=
  unit.declarationKey (unit.type type).declaration

end ParsedUnit

/-- What resolving depends on, the index apart. -/
structure Resolver where
  unit : ParsedUnit
  prefixes : List String
  /-- the files whose declarations are read -/
  visible : List String

/-- A result together with the index after it, which is the same as before if nothing was added. -/
abbrev Resolution (α : Type) := Index → Except TypeError α × Index

namespace Resolver

/-- Whether a declaration lies in a visible file. -/
def isVisible (r : Resolver) (cursor : Cursor) : Bool :=
  (r.unit.fileName? cursor.location).any r.visible.contains

/-- The aggregate that a declaration stands for.  One in a visible file that is not in the index yet
is put there as a placeholder. -/
def record? (r : Resolver) (reference : Option Nat) (index : Index) : Option EntityId × Index :=
  let key := r.unit.declarationKey reference
  if key = .undeclared then (none, index)
  else if index.contains key then (index.aggregateAt? key, index)
  else
    let declaration := r.unit.cursorAt reference
    if r.isVisible declaration then
      let placeholder := Aggregate.placeholder (declaration.name r.prefixes)
        (declaration.kind = .unionDecl)
      let (id, index) := index.add key (.aggregate placeholder)
      (some id, index)
    else (none, index)

/-- The first name on the way down a chain of pointers, and the number of pointers in front of it.  A
chain without names ends in the front-end's word for the category of its last type. -/
def nameBehind (r : Resolver) : Nat → TypeRef → Nat → Option (Name × Nat)
  | 0, _, _ => none
  | levels + 1, reference, depth =>
    let type := r.unit.type reference
    let name := (r.unit.cursorAt type.declaration).name r.prefixes
    if !name.isEmpty then some (name, depth)
    else if type.kind = .pointer then r.nameBehind levels type.pointee (depth + 1)
    else if type.kind = .unexposed then some (name, depth)
    else some (Name.split [] type.kind.spelling, depth)

/-- How many rows a chain of types can have. -/
def levels (r : Resolver) : Nat := r.unit.types.size + 2

/-- A pointer without an entity: the name of what it points to. -/
def namedPointer (r : Resolver) (named : TypeRef) (depth : Nat) : Except TypeError CType :=
  match r.nameBehind r.levels named depth with
  | some (name, depth) => .ok (.pointer name depth)
  | none => .error .endless

/-- The entity of a declared type, if it is of the right sort. -/
def entityOf (r : Resolver) (type : TypeRef) (isSort : Entity → Bool) (index : Index) :
    Option EntityId :=
  (index.get? (r.unit.typeKey type)).filter fun id => (index.entity? id).any isSort

/-- A pointer to the type `pointee`.  The names on the way are looked for from `named` on, `depth`
pointers down: the pointer as spelled, or the element of an array that stands for a pointer. -/
def pointer (r : Resolver) (named pointee : TypeRef) (depth : Nat) : Resolution CType := fun index =>
  let target := r.unit.type pointee
  if target.kind.isPlainChar then (.ok .string, index)
  else if target.kind = .record then
    match r.record? target.declaration index with
    | (some id, index) => (.ok (.entity id), index)
    | (none, index) => (r.namedPointer named depth, index)
  else if target.kind.isFunction then
    match r.entityOf named (·.callable?.isSome) index with
    | some id => (.ok (.entity id), index)
    | none => (r.namedPointer named depth, index)
  else (r.namedPointer named depth, index)

/-- The element type of an array, as spelled if the array is spelled as one. -/
def elementOf (r : Resolver) (reference : TypeRef) : SourceType :=
  let full := r.unit.type reference
  let canonical := r.unit.type (r.unit.canonicalType reference)
  if full.kind = canonical.kind then full else canonical

/-- The type of a value, walking down at most a number of array levels. -/
def resolveWithin (r : Resolver) : Nat → TypeRef → Resolution CType
  | 0, _, index => (.error .endless, index)
  | levels + 1, reference, index =>
    let canonicalRef := r.unit.canonicalType reference
    let canonical := r.unit.type canonicalRef
    let kind := canonical.kind
    if kind.isPrimitive then (.ok (.primitive kind.word), index)
    else if kind = .pointer then r.pointer reference canonical.pointee 0 index
    else if kind.isUnsizedArray then
      let element := (r.elementOf reference).element
      r.pointer element (r.unit.canonicalType element) 1 index
    else if kind = .record then
      match r.entityOf canonicalRef (·.aggregate?.isSome) index with
      | some id => (.ok (.byValue id), index)
      | none => (.ok .unknown, index)
    else if kind = .enum then
      match r.entityOf canonicalRef (·.enumeration?.isSome) index with
      | some id => (.ok (.entity id), index)
      | none => (.ok .unknown, index)
    else if kind = .constantArray then
      let array := r.elementOf reference
      match r.resolveWithin levels array.element index with
      | (.ok element, index) => (.ok (.array element array.count), index)
      | (.error error, index) => (.error error, index)
    else if kind = .unexposed then (.ok .unknown, index)
    else (.error (.unsupported kind.spelling (r.unit.type reference).spelling), index)

/-- The type of a value. -/
def resolve (r : Resolver) (type : TypeRef) : Resolution CType := r.resolveWithin r.levels type

/-- The type of a member.  An array without a size at the end of an aggregate takes no room, so it
has no elements and is no pointer. -/
def resolveMember (r : Resolver) (type : TypeRef) : Resolution CType := fun index =>
  if (r.unit.type (r.unit.canonicalType type)).kind = .incompleteArray then
    match r.resolve (r.elementOf type).element index with
    | (.ok element, index) => (.ok (.array element 0), index)
    | (.error error, index) => (.error error, index)
  else r.resolve type index

/-- The type at the end of a chain of pointers. -/
def endOfPointers (r : Resolver) : Nat → TypeRef → Option TypeRef
  | 0, _ => none
  | levels + 1, reference =>
    let type := r.unit.type reference
    if type.kind = .pointer then r.endOfPointers levels type.pointee else some reference

/-- The aggregate behind one or more pointers, if it is in the index. -/
def pointeeAggregate? (r : Resolver) (type : TypeRef) (index : Index) : Option EntityId :=
  let canonical := r.unit.canonicalType type
  if (r.unit.type canonical).kind = .pointer then
    match r.endOfPointers r.levels canonical with
    | some last =>
      if (r.unit.type last).kind = .record then index.aggregateAt? (r.unit.typeKey last) else none
    | none => none
  else none

end Resolver

end HeaderIndex
