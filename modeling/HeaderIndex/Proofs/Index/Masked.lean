import HeaderIndex.Index.Text
import HeaderIndex.Reader.Aggregate

/-!
# Indexes without what prefixes and the blocking list decide

Prefixes decide the words of names, and thereby which functions are listed with an aggregate; the
blocking list decides a mark of functions.  A masked index shows nothing of these three, and
everything else as it is.

* `Name.masked` — the spelling of a name, and whether it has words.
* `CType.masked`, `Entity.masked`, `Index.masked` — types, entities and indexes with masked names,
  where no methods are listed and no function is marked.
* `Index.lookup_masked`, `Index.entity?_masked`, `Index.aggregateAt?_masked` — a masked index answers
  as before.
* `Index.masked_add`, `Index.masked_modify`, `Index.masked_adoptName`, `Index.masked_placeholder` —
  masking goes along with every operation.
-/

namespace HeaderIndex

/-! ## Names -/

namespace Name

/-- A name of which only the spelling shows and whether it has words. -/
def masked (name : Name) : Name := ⟨if name.isEmpty then [] else [""], name.raw⟩

@[simp] theorem raw_masked (name : Name) : name.masked.raw = name.raw := rfl

@[simp] theorem isEmpty_masked (name : Name) : name.masked.isEmpty = name.isEmpty := by
  unfold masked
  cases h : name.isEmpty <;> rfl

theorem masked_eq_iff {a b : Name} : a.masked = b.masked ↔ a.raw = b.raw ∧ a.isEmpty = b.isEmpty := by
  constructor
  · intro h
    have hraw : a.masked.raw = b.masked.raw := by rw [h]
    have hempty : a.masked.isEmpty = b.masked.isEmpty := by rw [h]
    rw [isEmpty_masked, isEmpty_masked] at hempty
    exact ⟨hraw, hempty⟩
  · rintro ⟨hraw, hempty⟩
    rw [masked, masked, hraw, hempty]

@[simp] theorem masked_masked (name : Name) : name.masked.masked = name.masked :=
  masked_eq_iff.2 ⟨rfl, isEmpty_masked name⟩

theorem isEmpty_append (a b : Name) : (a ++ b).isEmpty = (a.isEmpty && b.isEmpty) := by
  show (a.parts ++ b.parts).isEmpty = (a.parts.isEmpty && b.parts.isEmpty)
  cases a.parts <;> rfl

/-- Names put together show whether one of them has words. -/
theorem masked_append {a b c d : Name} (hac : a.masked = c.masked) (hbd : b.masked = d.masked) :
    (a ++ b).masked = (c ++ d).masked := by
  rw [masked_eq_iff] at hac hbd ⊢
  refine ⟨rfl, ?_⟩
  rw [isEmpty_append, isEmpty_append, hac.2, hbd.2]

end Name

/-! ## Types and entities -/

/-- A type of which the name of a pointer shows no words. -/
def CType.masked : CType → CType
  | .pointer pointee depth => .pointer pointee.masked depth
  | .array element size => .array element.masked size
  | other => other

/-- A constant of an enumeration under a masked name. -/
def Enumerator.masked (c : Enumerator) : Enumerator := { c with name := c.name.masked }

/-- An enumeration with masked names. -/
def Enumeration.masked (e : Enumeration) : Enumeration :=
  { e with name := e.name.masked, constants := e.constants.map Enumerator.masked }

/-- A field under a masked name. -/
def Field.masked (f : Field) : Field := { f with name := f.name.masked, type := f.type.masked }

/-- An aggregate with masked names and without its methods. -/
def Aggregate.masked (a : Aggregate) : Aggregate :=
  { a with name := a.name.masked, fields := a.fields.map Field.masked, methods := [] }

/-- A parameter under a masked name. -/
def Parameter.masked (p : Parameter) : Parameter :=
  { p with name := p.name.masked, type := p.type.masked }

/-- A function with masked names that is not marked as blocking. -/
def Callable.masked (c : Callable) : Callable :=
  { c with
    name := c.name.masked
    parameters := c.parameters.map Parameter.masked
    result := c.result.masked
    isBlocking := false }

/-- A constant under a masked name. -/
def Constant.masked (c : Constant) : Constant := { c with name := c.name.masked }

namespace Entity

/-- An entity of which nothing shows that depends on prefixes or the blocking list. -/
def masked : Entity → Entity
  | enumeration e => enumeration e.masked
  | aggregate a => aggregate a.masked
  | callable c => callable c.masked
  | constant c => constant c.masked

@[simp] theorem name_masked (e : Entity) : e.masked.name = e.name.masked := by
  cases e <;> rfl

@[simp] theorem aggregate?_masked (e : Entity) :
    e.masked.aggregate? = e.aggregate?.map Aggregate.masked := by
  cases e <;> rfl

@[simp] theorem enumeration?_masked (e : Entity) :
    e.masked.enumeration? = e.enumeration?.map Enumeration.masked := by
  cases e <;> rfl

@[simp] theorem callable?_masked (e : Entity) :
    e.masked.callable? = e.callable?.map Callable.masked := by
  cases e <;> rfl

/-- An entity takes a masked name as it takes the name itself. -/
theorem masked_adoptName (name : Name) (e : Entity) :
    (e.adoptName name).masked = e.masked.adoptName name.masked := by
  cases e with
  | enumeration e =>
    simp only [adoptName, masked, Enumeration.masked, Name.isEmpty_masked]
    split <;> rfl
  | aggregate a =>
    simp only [adoptName, masked, Aggregate.masked, Name.isEmpty_masked]
    split <;> rfl
  | callable c => rfl
  | constant c => rfl

/-- Masking goes along with a change of aggregates if it goes along with it for each of them. -/
theorem masked_mapAggregate {f g : Aggregate → Aggregate} (h : ∀ a, (f a).masked = g a.masked)
    (e : Entity) : (e.mapAggregate f).masked = e.masked.mapAggregate g := by
  cases e with
  | aggregate a => exact congrArg aggregate (h a)
  | _ => rfl

theorem masked_mapEnumeration {f g : Enumeration → Enumeration}
    (h : ∀ e, (f e).masked = g e.masked) (e : Entity) :
    (e.mapEnumeration f).masked = e.masked.mapEnumeration g := by
  cases e with
  | enumeration e => exact congrArg enumeration (h e)
  | _ => rfl

end Entity

/-! ## Indexes -/

namespace Index

/-- An index of which nothing shows that depends on prefixes or the blocking list. -/
def masked (i : Index) : Index := ⟨i.entities.map Entity.masked, i.bindings⟩

variable {i j : Index} {key : Key} {id : EntityId}

@[simp] theorem lookup_masked (i : Index) (key : Key) : i.masked.lookup key = i.lookup key := rfl

@[simp] theorem get?_masked (i : Index) (key : Key) : i.masked.get? key = i.get? key := rfl

@[simp] theorem contains_masked (i : Index) (key : Key) :
    i.masked.contains key = i.contains key := rfl

@[simp] theorem entity?_masked (i : Index) (id : EntityId) :
    i.masked.entity? id = (i.entity? id).map Entity.masked := by
  simp [masked, entity?]

@[simp] theorem aggregateAt?_masked (i : Index) (key : Key) :
    i.masked.aggregateAt? key = i.aggregateAt? key := by
  unfold aggregateAt?
  congr 1
  funext id
  rw [entity?_masked]
  cases i.entity? id <;> simp

/-- Keys lead to the same places in indexes that look the same when masked. -/
theorem get?_eq_of_masked (h : i.masked = j.masked) (key : Key) : i.get? key = j.get? key := by
  rw [← get?_masked, h, get?_masked]

theorem contains_eq_of_masked (h : i.masked = j.masked) (key : Key) :
    i.contains key = j.contains key := by
  rw [← contains_masked, h, contains_masked]

theorem aggregateAt?_eq_of_masked (h : i.masked = j.masked) (key : Key) :
    i.aggregateAt? key = j.aggregateAt? key := by
  rw [← aggregateAt?_masked, h, aggregateAt?_masked]

theorem entity?_eq_of_masked (h : i.masked = j.masked) (id : EntityId) :
    (i.entity? id).map Entity.masked = (j.entity? id).map Entity.masked := by
  rw [← entity?_masked, h, entity?_masked]

/-- The new entity gets the same place, and is masked there. -/
theorem masked_add (i : Index) (key : Key) (e : Entity) :
    ((i.add key e).1, (i.add key e).2.masked) = i.masked.add key e.masked := by
  unfold add
  rw [lookup_masked]
  cases i.lookup key with
  | some taken => rfl
  | none => simp [masked]

theorem add_eq_of_masked (h : i.masked = j.masked) {e f : Entity} (he : e.masked = f.masked)
    (key : Key) :
    (i.add key e).1 = (j.add key f).1 ∧ (i.add key e).2.masked = (j.add key f).2.masked := by
  have hadd := (masked_add i key e).trans ((by rw [h, he] : _ = j.masked.add key f.masked).trans
    (masked_add j key f).symm)
  exact Prod.mk.inj hadd

theorem masked_modify {f g : Entity → Entity} (h : ∀ e, (f e).masked = g e.masked) (i : Index)
    (id : EntityId) : (i.modify id f).masked = i.masked.modify id g := by
  unfold modify masked
  congr 1
  refine List.ext_getElem? fun n => ?_
  rw [List.getElem?_map, List.getElem?_modify, List.getElem?_modify, List.getElem?_map]
  cases i.entities[n]? with
  | none => rfl
  | some e =>
    by_cases hn : id = n
    · simp [hn, h]
    · simp [hn]

/-- A change that does not show in an entity does not show in the index. -/
theorem masked_modify_hidden {f : Entity → Entity} (h : ∀ e, (f e).masked = e.masked) (i : Index)
    (id : EntityId) : (i.modify id f).masked = i.masked := by
  rw [masked_modify (g := fun e => e) h]
  exact congrArg (Index.mk · i.bindings) (List.modify_id _ _)

theorem masked_adoptName (i : Index) (id : EntityId) (name : Name) :
    (i.adoptName id name).masked = i.masked.adoptName id name.masked :=
  masked_modify (Entity.masked_adoptName name) i id

/-- A placeholder shows nothing but its masked name, and meets the same conflicts. -/
theorem masked_placeholder (i : Index) (key : Key) (name : Name) (isUnion : Bool) :
    (i.placeholder key name isUnion).map (fun known => (known.1, known.2.masked)) =
      i.masked.placeholder key name.masked isUnion := by
  unfold placeholder
  rw [lookup_masked]
  cases i.lookup key with
  | some id =>
    simp only [entity?_masked]
    cases i.entity? id with
    | none => rfl
    | some e => cases e <;> rfl
  | none => exact congrArg Except.ok (masked_add ..)

/-- A type has a masked name if it is masked. -/
theorem masked_nameOf (i : Index) (type : CType) :
    (i.nameOf type).masked = (i.masked.nameOf type.masked).masked := by
  have hentity : ∀ id, (((i.entity? id).map Entity.name).getD Name.anonymous).masked =
      (((i.masked.entity? id).map Entity.name).getD Name.anonymous).masked := by
    intro id
    rw [entity?_masked]
    cases i.entity? id <;> simp
  cases type with
  | byValue id => exact hentity id
  | entity id => exact hentity id
  | pointer pointee depth => exact (Name.masked_masked pointee).symm
  | _ => rfl

theorem nameOf_eq_of_masked (h : i.masked = j.masked) {type other : CType}
    (htype : type.masked = other.masked) :
    (i.nameOf type).masked = (j.nameOf other).masked := by
  rw [masked_nameOf i, h, htype, ← masked_nameOf j]

end Index

namespace Reader

variable {i j : Index}

theorem nameOf_eq_of_masked (h : i.masked = j.masked) (id : EntityId) :
    (nameOf i id).masked = (nameOf j id).masked := by
  have hmasked : ∀ k : Index, (nameOf k id).masked = (nameOf k.masked id).masked := by
    intro k
    unfold nameOf
    rw [Index.entity?_masked]
    cases k.entity? id <;> simp
  rw [hmasked i, h, ← hmasked j]

theorem fieldsOf_masked (i : Index) (id : EntityId) :
    fieldsOf i.masked id = (fieldsOf i id).map Field.masked := by
  unfold fieldsOf
  rw [Index.entity?_masked]
  cases i.entity? id with
  | none => rfl
  | some e => cases e <;> rfl

/-- Aggregates look defined or not, masked or as they are. -/
theorem fieldsOf_eq_nil_of_masked (h : i.masked = j.masked) (id : EntityId) :
    fieldsOf i id = [] ↔ fieldsOf j id = [] := by
  rw [← List.map_eq_nil_iff (f := Field.masked), ← fieldsOf_masked, h, fieldsOf_masked,
    List.map_eq_nil_iff]

end Reader

end HeaderIndex
