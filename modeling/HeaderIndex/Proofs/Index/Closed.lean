import HeaderIndex.Proofs.Index.Growth

/-!
# Indexes without dangling references

* `Key.Fits` — the sort of entity that a key stands for.
* `CType.RefersIn` — every entity that a type refers to, at any depth of arrays, is bound in an
  index and is one that types can refer to.
* `Index.Closed` — every key stands for an entity that fits it, and the types and methods of all
  entities lead to entities of the index.
* `Closed.add`, `Closed.modify` — closed indexes stay closed when an entity that fits is added, and
  when one grows by what the index holds already.
-/

namespace HeaderIndex

/-! ## What refers to entities -/

namespace Entity

/-- The types in an entity: those of its fields, its parameters and its result. -/
def types : Entity → List CType
  | aggregate a => a.fields.map (·.type)
  | callable c => c.result :: c.parameters.map (·.type)
  | enumeration _ | constant _ => []

/-- The methods of an entity. -/
def methods : Entity → List Method
  | aggregate a => a.methods
  | enumeration _ | callable _ | constant _ => []

/-- A structure or union. -/
def IsAggregate (e : Entity) : Prop := ∃ a, e = aggregate a

/-- A function that can be called by its name. -/
def IsFunction (e : Entity) : Prop := ∃ c, e = callable c ∧ c.isCallback = false

/-- What stands for a type: a structure, a union, an enumeration or a callback. -/
def IsType : Entity → Prop
  | aggregate _ | enumeration _ => True
  | callable c => c.isCallback = true
  | constant _ => False

@[simp] theorem types_adoptName (e : Entity) (name : Name) :
    (e.adoptName name).types = e.types := by
  cases e with
  | aggregate a => simp only [adoptName, types]; split <;> rfl
  | _ => rfl

@[simp] theorem methods_adoptName (e : Entity) (name : Name) :
    (e.adoptName name).methods = e.methods := by
  cases e with
  | aggregate a => simp only [adoptName, methods]; split <;> rfl
  | _ => rfl

@[simp] theorem types_mapEnumeration (e : Entity) (f : Enumeration → Enumeration) :
    (e.mapEnumeration f).types = e.types := by
  cases e <;> rfl

@[simp] theorem methods_mapEnumeration (e : Entity) (f : Enumeration → Enumeration) :
    (e.mapEnumeration f).methods = e.methods := by
  cases e <;> rfl

variable {e f : Entity}

theorem IsAggregate.growsTo (h : e.GrowsTo f) (he : e.IsAggregate) : f.IsAggregate := by
  obtain ⟨a, rfl⟩ := he
  obtain ⟨a', hf, _⟩ := h.aggregate
  exact ⟨a', hf⟩

theorem IsFunction.growsTo (h : e.GrowsTo f) (he : e.IsFunction) : f.IsFunction := by
  obtain ⟨c, rfl, hc⟩ := he
  exact ⟨c, h.callable, hc⟩

theorem IsType.growsTo (h : e.GrowsTo f) (he : e.IsType) : f.IsType := by
  cases e with
  | aggregate a =>
    obtain ⟨a', rfl, _⟩ := h.aggregate
    trivial
  | enumeration e =>
    obtain ⟨e', rfl⟩ := h.enumeration
    trivial
  | callable c => rw [h.callable]; exact he
  | constant c => cases he

theorem IsAggregate.isType (he : e.IsAggregate) : e.IsType := by
  obtain ⟨a, rfl⟩ := he
  trivial

end Entity

/-- Whether an entity is what a key stands for: the key of a macro for a constant that is spelled as
the macro, the key of a function for a function, and every other key for a type. -/
def Key.Fits : Key → Entity → Prop
  | .ofMacro spelling, e => ∃ c, e = .constant c ∧ c.name.raw = some spelling
  | .function _, e => e.IsFunction
  | .undeclared, e | .type _, e | .custom _, e => e.IsType

theorem Key.Fits.growsTo {key : Key} {e f : Entity} (h : e.GrowsTo f) (he : key.Fits e) :
    key.Fits f := by
  cases key with
  | ofMacro spelling =>
    obtain ⟨c, rfl, hc⟩ := he
    exact ⟨c, h.constant, hc⟩
  | function => exact Entity.IsFunction.growsTo h he
  | _ => exact Entity.IsType.growsTo h he

/-! ## References within an index -/

/-- Whether a position is bound to an entity of a sort. -/
structure Index.Holds (index : Index) (id : EntityId) (sort : Entity → Prop) : Prop where
  bound : id ∈ index.bound
  entity : ∃ e, index.entity? id = some e ∧ sort e

/-- Whether all that a type refers to is in an index. -/
def CType.RefersIn (index : Index) : CType → Prop
  | .byValue id => index.Holds id Entity.IsAggregate
  | .entity id => index.Holds id Entity.IsType
  | .array element _ => element.RefersIn index
  | .foreign _ => False
  | .primitive _ | .string | .pointer .. | .unknown => True

/-- Whether all that an entity refers to is in an index. -/
structure Entity.ClosedIn (index : Index) (e : Entity) : Prop where
  types : ∀ type ∈ e.types, type.RefersIn index
  methods : ∀ method ∈ e.methods, index.Holds method.function Entity.IsFunction

/-- Whether every key stands for what fits it and no reference leads out of an index. -/
structure Index.Closed (index : Index) : Prop where
  keys : ∀ entry ∈ index.bindings, ∃ e, index.entity? entry.2 = some e ∧ entry.1.Fits e
  entities : ∀ id e, index.entity? id = some e → e.ClosedIn index

section Growth

variable {i j : Index} {id : EntityId}

theorem Index.Holds.growsTo {sort : Entity → Prop} (h : i.GrowsTo j)
    (hsort : ∀ e f : Entity, e.GrowsTo f → sort e → sort f) (hi : i.Holds id sort) :
    j.Holds id sort := by
  obtain ⟨hb, e, he, hs⟩ := hi
  obtain ⟨f, hf, hg⟩ := h.entities id e he
  exact ⟨h.mem_bound hb, f, hf, hsort e f hg hs⟩

theorem Index.Holds.imp {sort sort' : Entity → Prop} (h : i.Holds id sort)
    (hsort : ∀ e, sort e → sort' e) : i.Holds id sort' := by
  obtain ⟨hb, e, he, hs⟩ := h
  exact ⟨hb, e, he, hsort e hs⟩

theorem CType.RefersIn.growsTo {type : CType} (h : i.GrowsTo j) (ht : type.RefersIn i) :
    type.RefersIn j := by
  induction type with
  | byValue id => exact Index.Holds.growsTo h (fun _ _ => .growsTo) ht
  | entity id => exact Index.Holds.growsTo h (fun _ _ => .growsTo) ht
  | array element size ih => exact ih ht
  | foreign text => cases ht
  | _ => trivial

theorem Entity.ClosedIn.growsTo {e : Entity} (h : i.GrowsTo j) (he : e.ClosedIn i) :
    e.ClosedIn j :=
  ⟨fun type ht => (he.types type ht).growsTo h,
    fun method hm => (he.methods method hm).growsTo h fun _ _ => .growsTo⟩

/-- An entity without types and methods refers to nothing. -/
theorem Entity.closedIn_of_nil {e : Entity} (ht : e.types = []) (hm : e.methods = []) :
    e.ClosedIn i :=
  ⟨by simp [ht], by simp [hm]⟩

end Growth

/-! ## Closed indexes stay closed -/

namespace Index

variable {i : Index} {key : Key} {id : EntityId}

theorem closed_empty : empty.Closed :=
  ⟨fun _ h => absurd h List.not_mem_nil, fun _ _ h => by simp [empty, entity?] at h⟩

/-- In a closed index a key holds what fits it. -/
theorem Closed.holds (h : i.Closed) (hl : i.lookup key = some id) : i.Holds id key.Fits := by
  have hb := mem_bindings_of_lookup hl
  exact ⟨mem_bound_of_mem hb, h.keys _ hb⟩

theorem Closed.modify {f : Entity → Entity} (h : i.Closed) (hgrows : i.GrowsTo (i.modify id f))
    (hf : ∀ e, e.ClosedIn i → (f e).ClosedIn i) : (i.modify id f).Closed := by
  constructor
  · intro entry hb
    obtain ⟨e, he, hfit⟩ := h.keys entry hb
    obtain ⟨e', he', hg'⟩ := hgrows.entities entry.2 e he
    exact ⟨e', he', hfit.growsTo hg'⟩
  · intro other e he
    refine Entity.ClosedIn.growsTo hgrows ?_
    rw [entity?_modify] at he
    split at he
    · obtain ⟨e', he', rfl⟩ := Option.map_eq_some_iff.1 he
      subst other
      exact hf e' (h.entities id e' he')
    · exact h.entities other e he

theorem Closed.add {e : Entity} (h : i.Closed) (hfit : key.Fits e) (he : e.ClosedIn i) :
    (i.add key e).2.Closed := by
  cases hl : i.lookup key with
  | some taken => rw [add_of_taken hl]; exact h
  | none =>
    have hgrows := growsTo_add i key e
    rw [add_of_free hl] at hgrows ⊢
    constructor
    · intro entry hb
      rcases List.mem_append.1 hb with hb | hb
      · obtain ⟨e', he', hfit'⟩ := h.keys entry hb
        obtain ⟨f, hf, hg⟩ := hgrows.entities entry.2 e' he'
        exact ⟨f, hf, hfit'.growsTo hg⟩
      · obtain rfl := List.mem_singleton.1 hb
        exact ⟨e, by simp [entity?], hfit⟩
    · intro other f hf
      refine Entity.ClosedIn.growsTo hgrows ?_
      have hmem : f ∈ i.entities ++ [e] := List.mem_of_getElem? hf
      rcases List.mem_append.1 hmem with hmem | hmem
      · obtain ⟨n, hn⟩ := List.mem_iff_getElem?.1 hmem
        exact h.entities n f hn
      · obtain rfl := List.mem_singleton.1 hmem
        exact he

theorem Closed.placeholder {j : Index} {name : Name} {isUnion : Bool} (h : i.Closed)
    (hfit : key.Fits (.aggregate (.placeholder name isUnion)))
    (hp : i.placeholder key name isUnion = .ok (id, j)) : j.Closed :=
  of_placeholder hp h (h.add hfit (Entity.closedIn_of_nil rfl rfl))

end Index

end HeaderIndex
