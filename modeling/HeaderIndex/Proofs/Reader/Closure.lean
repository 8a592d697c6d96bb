import HeaderIndex.Proofs.Reader.Run

/-!
# Closed indexes over a run

* `refersIn_resolve`, `refersIn_resolveMember` — what a type resolves to refers to entities of the
  index after resolving.
* `Step.closed` — a step from a state whose indexes are closed leads to a closed index.
* `reached_closed` — so every index that reading passes through is closed.
-/

namespace HeaderIndex

namespace Resolver

variable {r : Resolver} {i j : Index}

theorem fits_typeKey (unit : ParsedUnit) (type : TypeRef) (e : Entity) :
    (unit.typeKey type).Fits e ↔ e.IsType := by
  rcases typeKey_cases unit type with h | ⟨position, h⟩ <;> rw [h] <;> rfl

theorem holds_of_aggregateAt? {key : Key} {id : EntityId} (h : i.aggregateAt? key = some id) :
    i.Holds id Entity.IsAggregate := by
  obtain ⟨_, hl, a, ha⟩ := Index.aggregateAt?_eq_some.1 h
  exact ⟨Index.mem_bound_of_mem (Index.mem_bindings_of_lookup hl), _, ha, a, rfl⟩

/-- The entity of a declared type stands for a type, and is of the sort that was asked for. -/
theorem holds_of_entityOf (h : i.Closed) {type : TypeRef} {isSort : Entity → Bool} {id : EntityId}
    (hid : r.entityOf type isSort i = some id) :
    i.Holds id fun e => e.IsType ∧ isSort e = true := by
  unfold entityOf at hid
  rw [Option.filter_eq_some_iff] at hid
  obtain ⟨hget, hsort⟩ := hid
  obtain ⟨hb, e, he, hfit⟩ := h.holds (Index.lookup_of_get? hget).1
  rw [fits_typeKey] at hfit
  rw [he] at hsort
  exact ⟨hb, e, he, hfit, hsort⟩

theorem Mentions.closed (h : r.Mentions i j) (hi : i.Closed) : j.Closed := by
  cases h with
  | nothing => exact hi
  | placeholder => exact hi.add trivial (Entity.closedIn_of_nil rfl rfl)

theorem refersIn_namedPointer {named : TypeRef} {depth : Nat} {type : CType}
    (h : r.namedPointer named depth = .ok type) : type.RefersIn i := by
  unfold namedPointer at h
  split at h
  · cases h
    trivial
  · cases h

theorem refersIn_pointer (hi : i.Closed) {named pointee : TypeRef} {depth : Nat} {type : CType}
    (h : r.pointer named pointee depth i = (.ok type, j)) : type.RefersIn j := by
  unfold pointer at h
  dsimp only at h
  split at h
  · cases h
    trivial
  split at h
  · split at h
    · rename_i id index hrecord
      cases h
      exact (holds_of_aggregateAt? (record?_eq_some hrecord)).imp fun _ => Entity.IsAggregate.isType
    · exact refersIn_namedPointer (Prod.mk.inj h).1
  split at h
  · split at h
    · rename_i id hid
      cases h
      exact (holds_of_entityOf hi hid).imp fun _ he => he.1
    · exact refersIn_namedPointer (Prod.mk.inj h).1
  · exact refersIn_namedPointer (Prod.mk.inj h).1

theorem refersIn_resolveWithin (hi : i.Closed) (levels : Nat) {source : TypeRef} {type : CType}
    (h : r.resolveWithin levels source i = (.ok type, j)) : type.RefersIn j := by
  induction levels generalizing source type j with
  | zero => cases h
  | succ levels ih =>
    unfold resolveWithin at h
    dsimp only at h
    split at h
    · cases h
      trivial
    split at h
    · exact refersIn_pointer hi h
    split at h
    · exact refersIn_pointer hi h
    split at h
    · split at h
      · rename_i id hid
        cases h
        refine (holds_of_entityOf hi hid).imp fun e he => ?_
        cases e with
        | aggregate a => exact ⟨a, rfl⟩
        | _ => simp [Entity.aggregate?] at he
      · cases h
        trivial
    split at h
    · split at h
      · rename_i id hid
        cases h
        exact (holds_of_entityOf hi hid).imp fun _ he => he.1
      · cases h
        trivial
    split at h
    · -- an array refers to what its elements refer to
      split at h
      · rename_i element index helement
        cases h
        have href : element.RefersIn j := ih helement
        exact href
      · cases h
    split at h
    · cases h
      trivial
    · cases h

/-- **What a type resolves to refers to entities of the index.** -/
theorem refersIn_resolve (hi : i.Closed) {source : TypeRef} {type : CType}
    (h : r.resolve source i = (.ok type, j)) : type.RefersIn j :=
  refersIn_resolveWithin hi r.levels h

theorem refersIn_resolveMember (hi : i.Closed) {source : TypeRef} {type : CType}
    (h : r.resolveMember source i = (.ok type, j)) : type.RefersIn j := by
  unfold resolveMember at h
  split at h
  · split at h
    · rename_i element index helement
      cases h
      have href : element.RefersIn j := refersIn_resolve hi helement
      exact href
    · cases h
  · exact refersIn_resolve hi h

end Resolver

namespace Reader

variable {r : Resolver} {s t : State}

/-- What a type was resolved to earlier refers to entities of the index now. -/
theorem Resolved.refersIn {resolution : Resolution CType} {type : CType}
    (h : Resolved resolution s type) (hclosed : ∀ i ∈ s.reached, i.Closed)
    (hgrows : ∀ i ∈ s.reached, i.GrowsTo s.index)
    (hrefers : ∀ i j : Index, i.Closed → resolution i = (.ok type, j) → type.RefersIn j) :
    type.RefersIn s.index := by
  obtain ⟨i, hi, hok, hj⟩ := h
  exact (hrefers i _ (hclosed i hi) (Prod.ext hok rfl)).growsTo (hgrows _ hj)

/-- A function or callback with resolved types refers to entities of the index. -/
theorem AllResolved.closedIn {c : Callable}
    (h : AllResolved r (Entity.callable c).types s) (hclosed : ∀ i ∈ s.reached, i.Closed)
    (hgrows : ∀ i ∈ s.reached, i.GrowsTo s.index) :
    (Entity.callable c).ClosedIn s.index := by
  refine ⟨fun type ht => ?_, by simp [Entity.methods]⟩
  obtain ⟨source, hsource⟩ := h type ht
  exact hsource.refersIn hclosed hgrows fun _ _ hi hok => Resolver.refersIn_resolve hi hok

/-- Changing an aggregate keeps an entity closed if this adds no references but closed ones. -/
theorem closedIn_mapAggregate {i : Index} {e : Entity} {f : Aggregate → Aggregate}
    (he : e.ClosedIn i)
    (hfields : ∀ a, ∀ field ∈ (f a).fields, field ∈ a.fields ∨ field.type.RefersIn i)
    (hmethods : ∀ a, ∀ method ∈ (f a).methods,
      method ∈ a.methods ∨ i.Holds method.function Entity.IsFunction) :
    (e.mapAggregate f).ClosedIn i := by
  cases e with
  | aggregate a =>
    constructor
    · intro type ht
      obtain ⟨field, hfield, rfl⟩ := List.mem_map.1 ht
      rcases hfields a field hfield with hold | hnew
      · exact he.types _ (List.mem_map_of_mem hold)
      · exact hnew
    · intro method hm
      rcases hmethods a method hm with hold | hnew
      · exact he.methods method hold
      · exact hnew
  | _ => exact he

theorem raw_name_macro {cursor : Cursor} (prefixes : List String)
    (h : cursor.kind = .macroDefinition) : (cursor.name prefixes).raw = some cursor.spelling := by
  unfold Cursor.name
  split
  · rename_i hn
    -- a macro is nameless only if it is spelled by nothing
    have hempty : cursor.spelling = "" := by
      simpa [h, Cursor.isNameless, show CursorKind.macroDefinition.isTag = false from rfl] using hn
    rw [hempty]
    rfl
  · rfl

/-- **A step keeps closed indexes closed.** -/
theorem Step.closed (h : Step r s t) (hclosed : ∀ i ∈ s.reached, i.Closed)
    (hgrows : ∀ i ∈ s.reached, i.GrowsTo s.index) : t.index.Closed := by
  have hs : s.index.Closed := hclosed _ s.index_mem_reached
  have hstep := h.growsTo
  cases h with
  | warn => exact hs
  | breakOff => exact hs
  | resolve type => exact (Resolver.mentions_resolve type s.index).closed hs
  | resolveMember type => exact (Resolver.mentions_resolveMember type s.index).closed hs
  | declare kind known => exact hs.placeholder ((Resolver.fits_typeKey ..).2 trivial) known
  | adoptName name bound =>
    refine hs.modify hstep fun e he => ?_
    exact ⟨by simpa using he.types, by simpa using he.methods⟩
  | describe =>
    refine hs.modify hstep fun e he => closedIn_mapAggregate he ?_ ?_
    · exact fun a field hf => .inl hf
    · exact fun a method hm => .inl hm
  | addField description bound member kind resolved =>
    have hnew := resolved.refersIn hclosed hgrows fun _ _ hi hok =>
      Resolver.refersIn_resolveMember hi hok
    refine hs.modify hstep fun e he => closedIn_mapAggregate he ?_ ?_
    · intro a field hf
      rcases List.mem_append.1 hf with hf | hf
      · exact .inl hf
      · obtain rfl := List.mem_singleton.1 hf
        exact .inr hnew
    · exact fun a method hm => .inl hm
  | addMethod added declared behind agree =>
    have hnew := hs.holds added.bound
    refine hs.modify hstep fun e he => closedIn_mapAggregate he ?_ ?_
    · exact fun a field hf => .inl hf
    · intro a method hm
      rcases List.mem_append.1 hm with hm | hm
      · exact .inl hm
      · obtain rfl := List.mem_singleton.1 hm
        exact .inr hnew
  | fillEnumeration texts description kind bound found empty =>
    refine hs.modify hstep fun e he => ?_
    exact ⟨by simpa using he.types, by simpa using he.methods⟩
  | addEnumeration =>
    exact hs.add ((Resolver.fits_typeKey ..).2 trivial) (Entity.closedIn_of_nil rfl rfl)
  | addFunction kind function read =>
    exact hs.add ⟨_, rfl, function⟩ (read.allResolved.closedIn hclosed hgrows)
  | addCallback kind callback named resolved =>
    exact hs.add ((Resolver.fits_typeKey ..).2 callback) (resolved.closedIn hclosed hgrows)
  | addConstant value kind =>
    exact hs.add ⟨_, rfl, raw_name_macro _ kind⟩ (Entity.closedIn_of_nil rfl rfl)

/-- What a run from closed indexes passes through is closed. -/
theorem Path.closed (h : Path r s t)
    (hgrows : s.reached.Pairwise fun later earlier => earlier.GrowsTo later)
    (hs : ∀ i ∈ s.reached, i.Closed) : ∀ i ∈ t.reached, i.Closed := by
  refine h.reached (P := fun _ i => i.Closed) hs (fun _ _ _ _ hi => hi)
    fun u v path step hu => step.closed hu fun i hi => ?_
  rcases List.mem_cons.1 hi with rfl | hi
  · exact .refl _
  · exact (List.pairwise_cons.1 (Path.pairwise path hgrows)).1 i hi

/-- **No reference leads out of an index.**  Whatever is read into the empty index and however this
ends: in every index on the way the key of a macro stands for a constant spelled as the macro, the
key of a function for a function, and every other key for a structure, union, enumeration or
callback; the types of fields, parameters and results refer to entities of this sort that the index
holds, by value only to structures and unions; and methods are functions that it holds. -/
theorem reached_closed (config : Config) (unit : ParsedUnit) (visible : List String) :
    ∀ index ∈ (readUnit config unit visible .initial).2.reached, index.Closed := by
  refine Path.closed (readUnit_path config unit visible .initial) (List.pairwise_singleton ..) ?_
  intro i hi
  obtain rfl := List.mem_singleton.1 hi
  exact Index.closed_empty

/-- `struct node { struct node *next; };` -/
def linkedNode : ParsedUnit where
  files := #["list.h"]
  tokens := #[[]]
  cursors := #[
    { Cursor.missing with
      kind := .structDecl, spelling := "node", location := ⟨some 0, 7, 1⟩
      start := ⟨some 0, 0, 1⟩, stop := ⟨some 0, 34, 1⟩, type := some 0
      children := [1], isDefinition := true },
    { Cursor.missing with
      kind := .fieldDecl, spelling := "next", location := ⟨some 0, 27, 1⟩
      start := ⟨some 0, 14, 1⟩, stop := ⟨some 0, 31, 1⟩, type := some 1 }]
  types := #[
    { SourceType.missing with kind := .record, spelling := "struct node", declaration := some 0 },
    { SourceType.missing with kind := .pointer, spelling := "struct node *", pointee := some 0 }]
  top := [0]
  includes := []
  diagnostics := []

/-- A structure that points to itself refers to its own entity. -/
theorem reached_closed_linkedNode :
    let config : Config :=
      ⟨Settings.minimal "list" [.path "list.h"], by decide, by simp [Settings.minimal]⟩
    let index := (readUnit config linkedNode ["list.h"] .initial).2.index
    (fieldsOf index 0).map (·.type) = [.entity 0] ∧ index.Closed :=
  ⟨by decide +kernel, reached_closed _ _ _ _ (State.index_mem_reached _)⟩

end Reader

end HeaderIndex
