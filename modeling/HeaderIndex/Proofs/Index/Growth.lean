import HeaderIndex.Index.Basic

/-!
# How an index grows

* `Entity.GrowsTo` — what an entity may become in its place: its sort stays, a name that has words
  stays, fields and methods are only added at the end, constants of an enumeration come only once,
  and functions, callbacks and constants stay as they are.
* `Index.GrowsTo` — bindings are only added behind the others and for keys that were free, and every
  entity stays in its place and grows.
* `map_entity?_modify`, `getD_entity?_add` — what leaves a view of entities alone.
* `of_placeholder` — what holds after a placeholder was asked for.
* `growsTo_add`, `growsTo_modify`, `growsTo_adoptName`, `growsTo_placeholder` — every operation on
  an index makes it grow, where changing an entity asks that this entity grows.
* `GrowsTo.aggregateAt?` — an aggregate found under a key is found under it ever after.
-/

namespace HeaderIndex

/-- What an entity may become while a header is read. -/
def Entity.GrowsTo : Entity → Entity → Prop
  | .enumeration e, .enumeration e' =>
    (e.name.parts ≠ [] → e'.name = e.name) ∧ (e.constants ≠ [] → e'.constants = e.constants)
  | .aggregate a, .aggregate a' =>
    (a.name.parts ≠ [] → a'.name = a.name) ∧ a'.isUnion = a.isUnion ∧
      a.fields <+: a'.fields ∧ a.methods <+: a'.methods
  | .callable c, .callable c' => c' = c
  | .constant c, .constant c' => c' = c
  | _, _ => False

namespace Entity

theorem GrowsTo.refl (e : Entity) : e.GrowsTo e := by
  cases e <;> simp [GrowsTo]

theorem GrowsTo.trans {e f g : Entity} (hf : e.GrowsTo f) (hg : f.GrowsTo g) : e.GrowsTo g := by
  cases e <;> cases f <;> cases g <;> simp only [GrowsTo] at hf hg ⊢
  · obtain ⟨hn, hc⟩ := hf
    obtain ⟨hn', hc'⟩ := hg
    refine ⟨fun h => ?_, fun h => ?_⟩
    · rw [hn' (by rw [hn h]; exact h), hn h]
    · rw [hc' (by rw [hc h]; exact h), hc h]
  · obtain ⟨hn, hu, hfs, hm⟩ := hf
    obtain ⟨hn', hu', hfs', hm'⟩ := hg
    refine ⟨fun h => ?_, hu'.trans hu, hfs.trans hfs', hm.trans hm'⟩
    rw [hn' (by rw [hn h]; exact h), hn h]
  · rw [hg, hf]
  · rw [hg, hf]

theorem GrowsTo.aggregate {a : Aggregate} {e : Entity} (h : (Entity.aggregate a).GrowsTo e) :
    ∃ a', e = .aggregate a' ∧ a.fields <+: a'.fields ∧ a'.isUnion = a.isUnion := by
  cases e with
  | aggregate a' => exact ⟨a', rfl, h.2.2.1, h.2.1⟩
  | _ => cases h

theorem GrowsTo.enumeration {e : Enumeration} {f : Entity} (h : (Entity.enumeration e).GrowsTo f) :
    ∃ e', f = .enumeration e' := by
  cases f with
  | enumeration e' => exact ⟨e', rfl⟩
  | _ => cases h

theorem GrowsTo.callable {c : Callable} {e : Entity} (h : (Entity.callable c).GrowsTo e) :
    e = .callable c := by
  cases e with
  | callable c' => rw [show c' = c from h]
  | _ => cases h

theorem GrowsTo.constant {c : Constant} {e : Entity} (h : (Entity.constant c).GrowsTo e) :
    e = .constant c := by
  cases e with
  | constant c' => rw [show c' = c from h]
  | _ => cases h

/-- What grows takes names as before. -/
theorem GrowsTo.canAdoptName {e f : Entity} (h : e.GrowsTo f) : f.canAdoptName = e.canAdoptName := by
  cases e with
  | enumeration e =>
    obtain ⟨e', rfl⟩ := h.enumeration
    rfl
  | aggregate a =>
    obtain ⟨a', rfl, _⟩ := h.aggregate
    rfl
  | callable c => rw [h.callable]
  | constant c => rw [h.constant]

/-- Changing aggregates only leaves a view alone that shows the same of them. -/
theorem view_mapAggregate {α : Type} {view : Entity → α} {f : Aggregate → Aggregate}
    (h : ∀ a, view (aggregate (f a)) = view (aggregate a)) (e : Entity) :
    view (e.mapAggregate f) = view e := by
  cases e with
  | aggregate a => exact h a
  | _ => rfl

/-- A name is only given to an entity that waits for one. -/
theorem growsTo_adoptName (e : Entity) (name : Name) : e.GrowsTo (e.adoptName name) := by
  cases e with
  | enumeration e =>
    refine ⟨fun h => ?_, fun _ => ?_⟩
    · simp [Name.isEmpty, h]
    · split <;> rfl
  | aggregate a =>
    refine ⟨fun h => ?_, ?_, ?_, ?_⟩
    · simp [Name.isEmpty, h]
    all_goals split <;> simp
  | callable c => rfl
  | constant c => rfl

end Entity

/-- What an index may become while a header is read. -/
structure Index.GrowsTo (earlier later : Index) : Prop where
  bindings : ∃ added, later.bindings = earlier.bindings ++ added ∧
    ∀ entry ∈ added, earlier.lookup entry.1 = none
  entities : ∀ id e, earlier.entity? id = some e →
    ∃ e', later.entity? id = some e' ∧ e.GrowsTo e'

namespace Index

variable {i j k : Index} {key : Key} {id : EntityId}

theorem GrowsTo.refl (i : Index) : i.GrowsTo i :=
  ⟨⟨[], by simp⟩, fun _ e h => ⟨e, h, .refl e⟩⟩

/-! ## What stays -/

theorem GrowsTo.lookup (h : i.GrowsTo j) (hk : i.lookup key = some id) :
    j.lookup key = some id := by
  obtain ⟨added, hb, _⟩ := h.bindings
  unfold Index.lookup at hk ⊢
  rw [hb, List.lookup_append, hk]
  rfl

theorem GrowsTo.mem_bound (h : i.GrowsTo j) (hb : id ∈ i.bound) : id ∈ j.bound := by
  obtain ⟨added, hj, _⟩ := h.bindings
  unfold bound at hb ⊢
  rw [hj, List.map_append]
  exact List.mem_append_left _ hb

theorem GrowsTo.trans (hij : i.GrowsTo j) (hjk : j.GrowsTo k) : i.GrowsTo k := by
  obtain ⟨added, hj, hfree⟩ := hij.bindings
  obtain ⟨added', hk, hfree'⟩ := hjk.bindings
  refine ⟨⟨added ++ added', by rw [hk, hj, List.append_assoc], ?_⟩, ?_⟩
  · intro entry he
    rcases List.mem_append.1 he with he | he
    · exact hfree entry he
    · -- a key that is free later was free before
      cases hl : i.lookup entry.1 with
      | none => rfl
      | some id => rw [← hfree' entry he, hij.lookup hl]
  · intro id e he
    obtain ⟨f, hf, hef⟩ := hij.entities id e he
    obtain ⟨g, hg, hfg⟩ := hjk.entities id f hf
    exact ⟨g, hg, hef.trans hfg⟩

theorem mem_bound_of_mem {entry : Key × EntityId} (h : entry ∈ i.bindings) : entry.2 ∈ i.bound :=
  List.mem_map_of_mem h

theorem mem_bindings_of_lookup (h : i.lookup key = some id) : (key, id) ∈ i.bindings := by
  unfold Index.lookup at h
  rw [List.lookup_eq_some_iff] at h
  obtain ⟨before, after, hb, _⟩ := h
  rw [hb]
  simp

theorem lookup_of_get? (h : i.get? key = some id) : i.lookup key = some id ∧ key ≠ .undeclared := by
  unfold get? at h
  split at h
  · cases h
  · rename_i hk
    exact ⟨h, hk⟩

theorem aggregateAt?_eq_some : i.aggregateAt? key = some id ↔
    key ≠ .undeclared ∧ i.lookup key = some id ∧ ∃ a, i.entity? id = some (.aggregate a) := by
  unfold aggregateAt?
  rw [Option.filter_eq_some_iff]
  constructor
  · rintro ⟨hg, ha⟩
    obtain ⟨hl, hk⟩ := lookup_of_get? hg
    refine ⟨hk, hl, ?_⟩
    cases he : i.entity? id with
    | none => simp [he] at ha
    | some e =>
      cases e with
      | aggregate a => exact ⟨a, rfl⟩
      | _ => simp [he, Entity.aggregate?] at ha
  · rintro ⟨hk, hl, a, ha⟩
    exact ⟨by simp [get?, hk, hl], by simp [ha, Entity.aggregate?]⟩

/-- An aggregate under a key stays under it. -/
theorem GrowsTo.aggregateAt? (h : i.GrowsTo j) (ha : i.aggregateAt? key = some id) :
    j.aggregateAt? key = some id := by
  obtain ⟨hk, hl, a, he⟩ := aggregateAt?_eq_some.1 ha
  obtain ⟨e', he', hg⟩ := h.entities id _ he
  obtain ⟨a', rfl, _⟩ := hg.aggregate
  exact aggregateAt?_eq_some.2 ⟨hk, h.lookup hl, a', he'⟩

/-- A placeholder for a key under which an aggregate stands is this aggregate. -/
theorem placeholder_of_aggregate {a : Aggregate} (hl : i.lookup key = some id)
    (he : i.entity? id = some (.aggregate a)) (name : Name) (isUnion : Bool) :
    i.placeholder key name isUnion = .ok (id, i) := by
  simp [placeholder, hl, he, Entity.aggregate?]

/-! ## What the operations do -/

theorem add_of_taken {taken : EntityId} (h : i.lookup key = some taken) (e : Entity) :
    i.add key e = (taken, i) := by
  simp [add, h]

theorem add_of_free (h : i.lookup key = none) (e : Entity) :
    i.add key e =
      (i.entities.length, ⟨i.entities ++ [e], i.bindings ++ [(key, i.entities.length)]⟩) := by
  simp [add, h]

theorem lookup_add_self (i : Index) (key : Key) (e : Entity) :
    (i.add key e).2.lookup key = some (i.add key e).1 := by
  rw [lookup_add]
  cases h : i.lookup key with
  | none => simp
  | some taken => simp [add_of_taken h]

theorem entity?_add_of_free (h : i.lookup key = none) (e : Entity) :
    (i.add key e).2.entity? (i.add key e).1 = some e := by
  simp [add_of_free h, entity?]

/-- Adding an entity puts it in its place and touches no other. -/
theorem entity?_add_of_ne {e : Entity} {other : EntityId} (h : other ≠ (i.add key e).1) :
    (i.add key e).2.entity? other = i.entity? other := by
  cases hl : i.lookup key with
  | some taken => rw [add_of_taken hl]
  | none =>
    rw [add_of_free hl] at h ⊢
    unfold entity?
    rcases Nat.lt_or_gt_of_ne h with hlt | hgt
    · rw [List.getElem?_append_left hlt]
    · rw [List.getElem?_eq_none (by simp; omega), List.getElem?_eq_none (by omega)]

theorem lt_of_entity? {e : Entity} (h : i.entity? id = some e) : id < i.entities.length :=
  (List.getElem?_eq_some_iff.1 h).1

theorem growsTo_add (i : Index) (key : Key) (e : Entity) : i.GrowsTo (i.add key e).2 := by
  constructor
  · cases h : i.lookup key with
    | some taken => exact ⟨[], by simp [add_of_taken h]⟩
    | none => exact ⟨[(key, i.entities.length)], by simp [add_of_free h], by simpa using h⟩
  · intro id f hf
    exact ⟨f, by rw [entity?_add i key e (lt_of_entity? hf)]; exact hf, .refl f⟩

theorem growsTo_modify {f : Entity → Entity} (h : ∀ e, i.entity? id = some e → e.GrowsTo (f e)) :
    i.GrowsTo (i.modify id f) := by
  refine ⟨⟨[], by simp⟩, fun other e he => ?_⟩
  rw [entity?_modify]
  split
  · rename_i heq
    subst heq
    exact ⟨f e, by simp [he], h e he⟩
  · exact ⟨e, he, .refl e⟩

theorem growsTo_adoptName (i : Index) (id : EntityId) (name : Name) :
    i.GrowsTo (i.adoptName id name) :=
  growsTo_modify fun e _ => e.growsTo_adoptName name

/-- A change that leaves a view of every entity alone changes it at no position. -/
theorem map_entity?_modify {α : Type} {view : Entity → α} {f : Entity → Entity}
    (h : ∀ e, view (f e) = view e) (i : Index) (id other : EntityId) :
    ((i.modify id f).entity? other).map view = (i.entity? other).map view := by
  rw [entity?_modify]
  split
  · cases i.entity? other with
    | none => rfl
    | some e => simp [h]
  · rfl

/-- An entity of which a view shows no more than of nothing adds nothing to it, wherever it is put. -/
theorem getD_entity?_add {α : Type} {view : Entity → α} {nothing : α} {e : Entity}
    (h : view e = nothing) (i : Index) (key : Key) (other : EntityId) :
    (((i.add key e).2.entity? other).map view).getD nothing =
      ((i.entity? other).map view).getD nothing := by
  cases hl : i.lookup key with
  | some taken => rw [add_of_taken hl]
  | none =>
    rw [add_of_free hl]
    simp only [entity?]
    rcases Nat.lt_trichotomy other i.entities.length with hlt | heq | hgt
    · rw [List.getElem?_append_left hlt]
    · simp [heq, h]
    · rw [List.getElem?_eq_none (by simp; omega), List.getElem?_eq_none (by omega)]

/-- A placeholder is the aggregate that was there, or a new one without fields. -/
theorem placeholder_eq_ok {name : Name} {isUnion : Bool}
    (h : i.placeholder key name isUnion = .ok (id, j)) :
    j.lookup key = some id ∧ (∃ a, j.entity? id = some (.aggregate a)) ∧
      (j = i ∨ i.lookup key = none ∧
        (id, j) = i.add key (.aggregate (.placeholder name isUnion))) := by
  unfold placeholder at h
  cases hl : i.lookup key with
  | some taken =>
    simp only [hl] at h
    cases he : i.entity? taken with
    | none => simp [he] at h
    | some e =>
      cases e with
      | aggregate a =>
        simp only [he, Option.bind_some, Entity.aggregate?, Except.ok.injEq, Prod.mk.injEq] at h
        obtain ⟨rfl, rfl⟩ := h
        exact ⟨hl, ⟨a, he⟩, .inl rfl⟩
      | _ => simp [he, Entity.aggregate?] at h
  | none =>
    simp only [hl, Except.ok.injEq] at h
    have hadd := lookup_add_self i key (.aggregate (.placeholder name isUnion))
    have hent := entity?_add_of_free hl (.aggregate (.placeholder name isUnion))
    rw [h] at hadd hent
    exact ⟨hadd, ⟨_, hent⟩, .inr ⟨rfl, h.symm⟩⟩

/-- What holds of an index, and of it with a new placeholder, holds after one was asked for. -/
@[elab_as_elim]
theorem of_placeholder {P : Index → Prop} {name : Name} {isUnion : Bool}
    (h : i.placeholder key name isUnion = .ok (id, j)) (same : P i)
    (added : P (i.add key (.aggregate (.placeholder name isUnion))).2) : P j := by
  obtain ⟨_, _, rfl | ⟨_, he⟩⟩ := placeholder_eq_ok h
  · exact same
  · rw [show j = (id, j).2 from rfl, he]
    exact added

theorem growsTo_placeholder {name : Name} {isUnion : Bool}
    (h : i.placeholder key name isUnion = .ok (id, j)) : i.GrowsTo j :=
  of_placeholder h (.refl i) (growsTo_add i key _)

end Index

end HeaderIndex
