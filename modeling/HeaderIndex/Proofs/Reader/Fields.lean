import HeaderIndex.Proofs.Reader.Step
import Mathlib.Logic.Function.Basic

/-!
# The fields under each key

* `fieldNames` — the names of the fields of the aggregate under a key.
* `fieldNames_add`, `fieldNames_modify`, `fieldNames_mentions` — what is added to an index has no
  fields, and most changes leave all fields alone.
* `Separate` — different keys lead to different entities; every step keeps this.
* `fieldNames_addTo` — in a separate index a field is added under one key.
-/

namespace HeaderIndex

/-- The fields of an entity. -/
def Entity.fields : Entity → List Field
  | aggregate a => a.fields
  | enumeration _ | callable _ | constant _ => []

@[simp] theorem Entity.fields_adoptName (e : Entity) (name : Name) :
    (e.adoptName name).fields = e.fields := by
  cases e with
  | aggregate a => simp only [adoptName, fields]; split <;> rfl
  | _ => rfl

@[simp] theorem Entity.fields_mapEnumeration (e : Entity) (f : Enumeration → Enumeration) :
    (e.mapEnumeration f).fields = e.fields := by
  cases e <;> rfl

namespace Reader

variable {i j : Index} {key : Key} {id : EntityId}

/-- The names of the fields of the aggregate under a key, in order. -/
def fieldNames (index : Index) (key : Key) : List Name :=
  ((index.lookup key).map fun id => (fieldsOf index id).map (·.name)).getD []

theorem fieldsOf_eq (i : Index) (id : EntityId) :
    fieldsOf i id = ((i.entity? id).map Entity.fields).getD [] := by
  unfold fieldsOf
  cases i.entity? id with
  | none => rfl
  | some e => cases e <;> rfl

theorem fieldNames_of_lookup (h : i.lookup key = some id) :
    fieldNames i key = (fieldsOf i id).map (·.name) := by
  simp [fieldNames, h]

/-! ## Changes that leave fields alone -/

theorem fieldsOf_modify {f : Entity → Entity} (h : ∀ e, (f e).fields = e.fields)
    (i : Index) (id : EntityId) : fieldsOf (i.modify id f) = fieldsOf i := by
  funext other
  rw [fieldsOf_eq, fieldsOf_eq, Index.map_entity?_modify h]

theorem fieldNames_modify {f : Entity → Entity} (h : ∀ e, (f e).fields = e.fields)
    (i : Index) (id : EntityId) : fieldNames (i.modify id f) = fieldNames i := by
  funext key
  unfold fieldNames
  rw [fieldsOf_modify h, Index.lookup_modify]

theorem fieldNames_adoptName (i : Index) (id : EntityId) (name : Name) :
    fieldNames (i.adoptName id name) = fieldNames i :=
  fieldNames_modify (fun e => e.fields_adoptName name) i id

theorem fieldsOf_add {e : Entity} (h : e.fields = []) (i : Index) (key : Key) :
    fieldsOf (i.add key e).2 = fieldsOf i := by
  funext id
  rw [fieldsOf_eq, fieldsOf_eq, Index.getD_entity?_add h]

/-- An entity without fields adds no fields, wherever it is put. -/
theorem fieldNames_add {e : Entity} (h : e.fields = []) (i : Index) (key : Key) :
    fieldNames (i.add key e).2 = fieldNames i := by
  funext k
  unfold fieldNames
  rw [fieldsOf_add h, Index.lookup_add]
  cases hk : i.lookup k with
  | some id => rfl
  | none =>
    split
    · rename_i heq
      subst heq
      -- the new entity is behind all others, where there was none
      have hnone : fieldsOf i i.entities.length = [] := by
        rw [fieldsOf_eq, Index.entity?, List.getElem?_eq_none (Nat.le_refl _)]
        rfl
      simp [Index.add_of_free hk, hnone]
    · rfl

theorem fieldNames_placeholder {name : Name} {isUnion : Bool}
    (h : i.placeholder key name isUnion = .ok (id, j)) : fieldNames j = fieldNames i :=
  Index.of_placeholder h rfl (fieldNames_add rfl i key)

theorem fieldNames_mentions {r : Resolver} (h : r.Mentions i j) :
    fieldNames j = fieldNames i := by
  cases h with
  | nothing => rfl
  | placeholder => exact fieldNames_add rfl i _

/-! ## Keys with entities of their own -/

/-- Whether different keys lead to different entities, and all of them to entities in the store. -/
structure Separate (index : Index) : Prop where
  injective : ∀ k k' id, index.lookup k = some id → index.lookup k' = some id → k = k'
  inside : ∀ k id, index.lookup k = some id → id < index.entities.length

theorem separate_empty : Separate .empty :=
  ⟨fun _ _ _ h _ => (nomatch h), fun _ _ h => (nomatch h)⟩

theorem Separate.modify (h : Separate i) (id : EntityId) (f : Entity → Entity) :
    Separate (i.modify id f) := by
  refine ⟨h.injective, fun k other hk => ?_⟩
  have hlt := h.inside k other hk
  simpa [Index.modify] using hlt

theorem Separate.add (h : Separate i) (key : Key) (e : Entity) : Separate (i.add key e).2 := by
  cases hl : i.lookup key with
  | some taken => rw [Index.add_of_taken hl]; exact h
  | none =>
    -- a key leads where it led, or is the new one and leads behind all others
    have hcases : ∀ k id, (i.add key e).2.lookup k = some id →
        (i.lookup k = some id ∧ id < i.entities.length) ∨ (k = key ∧ id = i.entities.length) := by
      intro k id hk
      rw [Index.lookup_add, Index.add_of_free hl] at hk
      cases hold : i.lookup k with
      | some old =>
        rw [hold] at hk
        obtain rfl := Option.some.inj hk
        exact .inl ⟨rfl, h.inside k old hold⟩
      | none =>
        rw [hold, Option.none_or] at hk
        split at hk
        · rename_i heq
          exact .inr ⟨heq, (Option.some.inj hk).symm⟩
        · cases hk
    constructor
    · intro k k' id hk hk'
      rcases hcases k id hk with ⟨hold, hlt⟩ | ⟨rfl, hid⟩ <;>
        rcases hcases k' id hk' with ⟨hold', hlt'⟩ | ⟨rfl, hid'⟩
      · exact h.injective k k' id hold hold'
      · exact absurd hid' (Nat.ne_of_lt hlt)
      · exact absurd hid (Nat.ne_of_lt hlt')
      · rfl
    · intro k id hk
      have hlength : (i.add key e).2.entities.length = i.entities.length + 1 := by
        simp [Index.add_of_free hl]
      rw [hlength]
      rcases hcases k id hk with ⟨_, hlt⟩ | ⟨_, rfl⟩
      · exact Nat.lt_succ_of_lt hlt
      · exact Nat.lt_succ_self _

theorem Separate.mentions {r : Resolver} (h : Separate i) (hm : r.Mentions i j) : Separate j := by
  cases hm with
  | nothing => exact h
  | placeholder => exact h.add _ _

theorem Separate.placeholder {name : Name} {isUnion : Bool} (h : Separate i)
    (hp : i.placeholder key name isUnion = .ok (id, j)) : Separate j :=
  Index.of_placeholder hp h (h.add _ _)

/-- **Steps keep keys apart.** -/
theorem stable_separate {r : Resolver} : Stable r fun s => Separate s.index := by
  intro s t step h
  cases step with
  | warn => exact h
  | breakOff => exact h
  | resolve type => exact h.mentions (Resolver.mentions_resolve type s.index)
  | resolveMember type => exact h.mentions (Resolver.mentions_resolveMember type s.index)
  | declare kind known => exact h.placeholder known
  | adoptName | describe | addField | fillEnumeration | addMethod => exact h.modify _ _
  | addEnumeration | addFunction | addCallback | addConstant => exact h.add _ _

/-- A field that is added to an aggregate is added under its key, and under no other. -/
theorem fieldNames_addTo (h : Separate i) (hl : i.lookup key = some id) {a : Aggregate}
    (he : i.entity? id = some (.aggregate a)) (field : Field) :
    fieldNames (i.modify id (Entity.mapAggregate fun a => { a with fields := a.fields ++ [field] })) =
      Function.update (fieldNames i) key (fieldNames i key ++ [field.name]) := by
  funext k
  by_cases hk : k = key
  · subst hk
    rw [Function.update_self, fieldNames_of_lookup hl,
      fieldNames_of_lookup (show (i.modify id _).lookup k = some id from hl), fieldsOf_eq,
      fieldsOf_eq, Index.entity?_modify, if_pos rfl, he]
    simp [Entity.mapAggregate, Entity.fields]
  · rw [Function.update_of_ne hk]
    unfold fieldNames
    rw [Index.lookup_modify]
    cases hother : i.lookup k with
    | none => rfl
    | some other =>
      have hne : id ≠ other := by
        rintro rfl
        exact hk (h.injective k key id hother hl)
      simp only [Option.map_some, Option.getD_some, fieldsOf_eq, Index.entity?_modify, if_neg hne]

theorem fieldNames_addField (h : Separate i) (ha : i.aggregateAt? key = some id) (field : Field) :
    fieldNames (i.modify id (Entity.mapAggregate fun a => { a with fields := a.fields ++ [field] })) =
      Function.update (fieldNames i) key (fieldNames i key ++ [field.name]) := by
  obtain ⟨_, hl, a, he⟩ := Index.aggregateAt?_eq_some.1 ha
  exact fieldNames_addTo h hl he field

end Reader

end HeaderIndex
