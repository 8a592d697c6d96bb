import HeaderIndex.Index.Entity

/-!
# The declaration index

An index is a store of entities, in which they never move, and a list of bindings from keys to
entities, in the order in which the keys were bound.

* `lookup`, `get?`, `find?` — what a key or a spelling leads to.
* `bind`, `add`, `placeholder` — binding a key that is free; the first entity under a key stays.
* `modify` — changing an entity in its place.
* `lookup_bind`, `lookup_add`, `entity?_modify`, `entity?_add` — none of these moves a key or an
  entity that is there.
-/

namespace HeaderIndex

/-- What an entity is looked up by. -/
inductive Key where
  /-- the declaration of a type that has none -/
  | undeclared
  /-- the first declaration of a type -/
  | type (cursor : Nat)
  /-- the first declaration of a function -/
  | function (cursor : Nat)
  /-- the spelling of a macro -/
  | ofMacro (spelling : String)
  /-- a key chosen by whoever fills an index by hand -/
  | custom (text : String)
  deriving DecidableEq, Repr

/-- Entities and the keys that are bound to them. -/
structure Index where
  entities : List Entity
  bindings : List (Key × EntityId)
  deriving DecidableEq, Repr

namespace Index

/-- The index of nothing. -/
def empty : Index := ⟨[], []⟩

/-! ## Looking up -/

/-- The entity under a position. -/
def entity? (index : Index) (id : EntityId) : Option Entity := index.entities[id]?

/-- The position bound to a key. -/
def lookup (index : Index) (key : Key) : Option EntityId := index.bindings.lookup key

/-- The position of the entity declared under a key.  What has no declaration is not found. -/
def get? (index : Index) (key : Key) : Option EntityId :=
  if key = .undeclared then none else index.lookup key

/-- Whether a key is bound. -/
def contains (index : Index) (key : Key) : Bool := (index.lookup key).isSome

/-- The positions of the bound entities, in the order of their keys. -/
def bound (index : Index) : List EntityId := index.bindings.map (·.2)

/-- How many keys are bound. -/
def size (index : Index) : Nat := index.bindings.length

/-- The bound entities of one sort, in the order of their keys. -/
def collect {α : Type} (index : Index) (sort : Entity → Option α) : List (EntityId × α) :=
  index.bound.filterMap fun id => ((index.entity? id).bind sort).map fun found => (id, found)

/-- The enumerations of an index. -/
def enumerations (index : Index) : List Enumeration := (index.collect Entity.enumeration?).map (·.2)

/-- The structures and unions of an index. -/
def aggregates (index : Index) : List Aggregate := (index.collect Entity.aggregate?).map (·.2)

/-- The functions of an index. -/
def functions (index : Index) : List Callable := (index.collect Entity.function?).map (·.2)

/-- The callbacks of an index. -/
def callbacks (index : Index) : List Callable := (index.collect Entity.callback?).map (·.2)

/-- The constants of an index. -/
def constants (index : Index) : List Constant := (index.collect Entity.constant?).map (·.2)

/-- The structure or union declared under a key. -/
def aggregateAt? (index : Index) (key : Key) : Option EntityId :=
  (index.get? key).filter fun id => ((index.entity? id).bind Entity.aggregate?).isSome

/-- The first bound entity with a given spelling in the source. -/
def find? (index : Index) (raw : Option String) : Option EntityId :=
  index.bound.find? fun id => ((index.entity? id).map (·.name.raw)) = some raw

/-! ## Adding and changing -/

/-- Puts an entity into the store without binding a key. -/
def create (index : Index) (entity : Entity) : EntityId × Index :=
  (index.entities.length, { index with entities := index.entities ++ [entity] })

/-- Binds a key to a position unless the key is taken; the position it is bound to then. -/
def bind (index : Index) (key : Key) (id : EntityId) : EntityId × Index :=
  match index.lookup key with
  | some taken => (taken, index)
  | none => (id, { index with bindings := index.bindings ++ [(key, id)] })

/-- Puts an entity into the store under a key unless the key is taken. -/
def add (index : Index) (key : Key) (entity : Entity) : EntityId × Index :=
  match index.lookup key with
  | some taken => (taken, index)
  | none =>
    let id := index.entities.length
    (id, ⟨index.entities ++ [entity], index.bindings ++ [(key, id)]⟩)

/-- What kept a key from standing for an aggregate: an entity of another sort under it. -/
structure Conflict where
  key : Key
  id : EntityId
  deriving DecidableEq, Repr

/-- The aggregate under a key, made as a placeholder if the key is free. -/
def placeholder (index : Index) (key : Key) (name : Name) (isUnion : Bool) :
    Except Conflict (EntityId × Index) :=
  match index.lookup key with
  | some id =>
    match (index.entity? id).bind Entity.aggregate? with
    | some _ => .ok (id, index)
    | none => .error ⟨key, id⟩
  | none => .ok (index.add key (.aggregate (.placeholder name isUnion)))

/-- Changes the entity at a position. -/
def modify (index : Index) (id : EntityId) (f : Entity → Entity) : Index :=
  { index with entities := index.entities.modify id f }

/-- Gives a name to the entity at a position if it waits for one. -/
def adoptName (index : Index) (id : EntityId) (name : Name) : Index :=
  index.modify id (Entity.adoptName name)

/-- Whether the entity at a position waits for a name. -/
def isNameless (index : Index) (id : EntityId) : Bool :=
  (index.entity? id).any fun entity => entity.canAdoptName && entity.name.isEmpty

/-! ## What keys lead to afterwards -/

@[simp] theorem lookup_empty (key : Key) : empty.lookup key = none := rfl

/-- Binding adds the one key, if it is free, and moves no other. -/
theorem lookup_bind (index : Index) (key : Key) (id : EntityId) (k : Key) :
    (index.bind key id).2.lookup k =
      (index.lookup k).or (if k = key then some (index.bind key id).1 else none) := by
  unfold bind lookup
  cases h : index.bindings.lookup key with
  | some taken =>
    by_cases hk : k = key
    · subst hk; simp [h]
    · simp [hk]
  | none =>
    by_cases hk : k = key
    · subst hk; simp [List.lookup_append, h]
    · have : (k == key) = false := by simpa using hk
      simp [List.lookup_append, List.lookup_cons, hk, this]

/-- Adding an entity binds its key, if it is free, and moves no other. -/
theorem lookup_add (index : Index) (key : Key) (entity : Entity) (k : Key) :
    (index.add key entity).2.lookup k =
      (index.lookup k).or (if k = key then some (index.add key entity).1 else none) := by
  unfold add lookup
  cases h : index.bindings.lookup key with
  | some taken =>
    by_cases hk : k = key
    · subst hk; simp [h]
    · simp [hk]
  | none =>
    by_cases hk : k = key
    · subst hk; simp [List.lookup_append, h]
    · have : (k == key) = false := by simpa using hk
      simp [List.lookup_append, List.lookup_cons, hk, this]

/-- Changing an entity leaves all keys bound as they are. -/
@[simp] theorem bindings_modify (index : Index) (id : EntityId) (f : Entity → Entity) :
    (index.modify id f).bindings = index.bindings := rfl

@[simp] theorem lookup_modify (index : Index) (id : EntityId) (f : Entity → Entity) (key : Key) :
    (index.modify id f).lookup key = index.lookup key := rfl

/-- Changing an entity changes the one at its position and no other. -/
theorem entity?_modify (index : Index) (id : EntityId) (f : Entity → Entity) (other : EntityId) :
    (index.modify id f).entity? other =
      if id = other then (index.entity? other).map f else index.entity? other := by
  simp [modify, entity?, List.getElem?_modify]
  split <;> simp_all

/-- Adding an entity leaves those in the store where they are. -/
theorem entity?_add (index : Index) (key : Key) (entity : Entity) {id : EntityId}
    (h : id < index.entities.length) :
    (index.add key entity).2.entity? id = index.entity? id := by
  unfold add entity?
  cases index.lookup key with
  | some taken => rfl
  | none => simp [List.getElem?_append_left h]

end Index

end HeaderIndex
