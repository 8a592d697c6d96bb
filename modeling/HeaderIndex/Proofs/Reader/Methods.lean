import HeaderIndex.Proofs.Reader.Identity
import HeaderIndex.Proofs.Reader.Order
import Mathlib.Data.List.Sort

/-!
# Methods over a run

* `InnermostPointee` — the type at the end of a chain of pointers.
* `Groups` — why a function is listed with an aggregate.
* `Grouped` — every function that is listed with an aggregate is so for a reason, with one aggregate
  only, and behind those that were added before it.
* `Step.grouped` — a step keeps this, for a function that has just been added is the last one.
* `reached_grouped` — so it holds of every index that reading passes through.
-/

namespace HeaderIndex.Reader

/-! ## Behind pointers -/

/-- The type at the end of a chain of pointers. -/
inductive InnermostPointee (unit : ParsedUnit) : TypeRef → TypeRef → Prop
  | here {type : TypeRef} (h : (unit.type type).kind ≠ .pointer) : InnermostPointee unit type type
  | behind {type last : TypeRef} (h : (unit.type type).kind = .pointer)
      (rest : InnermostPointee unit (unit.type type).pointee last) : InnermostPointee unit type last

theorem innermostPointee_of_endOfPointers {r : Resolver} {levels : Nat} {type last : TypeRef}
    (h : r.endOfPointers levels type = some last) : InnermostPointee r.unit type last := by
  induction levels generalizing type with
  | zero => cases h
  | succ levels ih =>
    unfold Resolver.endOfPointers at h
    dsimp only at h
    split at h
    · exact .behind ‹_› (ih h)
    · cases h
      exact .here ‹_›

theorem pointeeAggregate?_eq_some {r : Resolver} {type : TypeRef} {index : Index} {id : EntityId}
    (h : r.pointeeAggregate? type index = some id) :
    (r.unit.type (r.unit.canonicalType type)).kind = .pointer ∧
      ∃ last, InnermostPointee r.unit (r.unit.canonicalType type) last ∧
        (r.unit.type last).kind = .record ∧ index.aggregateAt? (r.unit.typeKey last) = some id := by
  unfold Resolver.pointeeAggregate? at h
  dsimp only at h
  split at h
  · rename_i hpointer
    split at h
    · rename_i last hlast
      split at h
      · exact ⟨hpointer, last, innermostPointee_of_endOfPointers hlast, ‹_›, h⟩
      · cases h
    · cases h
  · cases h

/-! ## Methods of an aggregate -/

/-- The methods of the aggregate at a position. -/
def methodsOf (index : Index) (id : EntityId) : List Method :=
  ((index.entity? id).map Entity.methods).getD []

variable {i j : Index} {id : EntityId}

theorem methodsOf_of_entity? {e : Entity} (h : i.entity? id = some e) : methodsOf i id = e.methods := by
  simp [methodsOf, h]

theorem methodsOf_modify {f : Entity → Entity} (h : ∀ e, (f e).methods = e.methods) (i : Index)
    (id : EntityId) : methodsOf (i.modify id f) = methodsOf i := by
  funext other
  rw [methodsOf, Index.map_entity?_modify h, methodsOf]

theorem methodsOf_add {e : Entity} (h : e.methods = []) (i : Index) (key : Key) :
    methodsOf (i.add key e).2 = methodsOf i := by
  funext id
  rw [methodsOf, Index.getD_entity?_add h, methodsOf]

theorem methodsOf_mentions {r : Resolver} (h : r.Mentions i j) : methodsOf j = methodsOf i := by
  cases h with
  | nothing => rfl
  | placeholder => exact methodsOf_add rfl i _

theorem methodsOf_placeholder {key : Key} {name : Name} {isUnion : Bool}
    (h : i.placeholder key name isUnion = .ok (id, j)) : methodsOf j = methodsOf i :=
  Index.of_placeholder h rfl (methodsOf_add rfl i key)

/-! ## Why a function is listed -/

/-- A function is listed with the aggregate at a position: it was read from a declaration whose first
parameter leads over pointers to this aggregate, and its name starts with that of the aggregate. -/
structure Groups (r : Resolver) (s : State) (index : Index) (id : EntityId) (m : Method)
    (position : Nat) (c : Callable) (first : Cursor) (last : TypeRef) : Prop where
  function : index.entity? m.function = some (.callable c)
  free : c.isCallback = false
  bound : index.lookup (.function (r.unit.canonicalCursor position)) = some m.function
  read : ReadFrom r s position c
  name : (nameOf index id).method? c.name = some m.name
  parameter : (parameterCursors r.unit (r.unit.cursor position)).head? = some first
  pointer : (r.unit.type (r.unit.canonicalType first.type)).kind = .pointer
  innermost : InnermostPointee r.unit (r.unit.canonicalType first.type) last
  record : (r.unit.type last).kind = .record
  owner : index.aggregateAt? (r.unit.typeKey last) = some id

/-- An owner of methods has a name. -/
theorem parts_ne_nil_of_method? {owner function short : Name}
    (h : owner.method? function = some short) : owner.parts ≠ [] := by
  intro hnil
  rw [Name.method?, hnil] at h
  cases h

variable {r : Resolver} {s t : State} {m : Method}

/-- A reason stays one. -/
theorem Groups.growsTo {position : Nat} {c : Callable} {first : Cursor} {last : TypeRef}
    (h : Groups r s i id m position c first last) (path : Path r s t) (hgrows : i.GrowsTo j) :
    Groups r t j id m position c first last where
  function := by
    obtain ⟨e, he, hg⟩ := hgrows.entities _ _ h.function
    rw [he, hg.callable]
  free := h.free
  bound := hgrows.lookup h.bound
  read := (stable_readFrom position c).path path h.read
  name := by rw [nameOf_growsTo hgrows (parts_ne_nil_of_method? h.name)]; exact h.name
  parameter := h.parameter
  pointer := h.pointer
  innermost := h.innermost
  record := h.record
  owner := hgrows.aggregateAt? h.owner

/-- Whether methods are listed for a reason, each once, and in the order of their functions. -/
structure Grouped (r : Resolver) (s : State) (index : Index) : Prop where
  reason : ∀ id, ∀ m ∈ methodsOf index id, ∃ position c first last,
    Groups r s index id m position c first last
  single : ∀ id id', ∀ m ∈ methodsOf index id, ∀ m' ∈ methodsOf index id',
    m.function = m'.function → id = id'
  ascending : ∀ id, ((methodsOf index id).map (·.function)).Pairwise (· < ·)

theorem grouped_empty : Grouped r s .empty where
  reason := fun _ m hm => absurd hm (by simp [methodsOf, Index.entity?, Index.empty])
  single := fun _ _ m hm => absurd hm (by simp [methodsOf, Index.entity?, Index.empty])
  ascending := fun _ => by simp [methodsOf, Index.entity?, Index.empty]

theorem Grouped.path (h : Grouped r s i) (path : Path r s t) : Grouped r t i where
  reason := by
    intro id m hm
    obtain ⟨position, c, first, last, hgroups⟩ := h.reason id m hm
    exact ⟨position, c, first, last, hgroups.growsTo path (.refl i)⟩
  single := h.single
  ascending := h.ascending

/-- What leaves methods alone keeps them grouped. -/
theorem Grouped.growsTo (h : Grouped r s i) (path : Path r s t) (hgrows : i.GrowsTo j)
    (hmethods : methodsOf j = methodsOf i) : Grouped r t j where
  reason := by
    intro id m hm
    rw [hmethods] at hm
    obtain ⟨position, c, first, last, hgroups⟩ := h.reason id m hm
    exact ⟨position, c, first, last, hgroups.growsTo path hgrows⟩
  single := by rw [hmethods]; exact h.single
  ascending := by rw [hmethods]; exact h.ascending

/-- Methods are functions of the index. -/
theorem Grouped.function_lt (h : Grouped r s i) (hm : m ∈ methodsOf i id) :
    m.function < i.entities.length := by
  obtain ⟨_, _, _, _, hgroups⟩ := h.reason id m hm
  exact Index.lt_of_entity? hgroups.function

/-! ## One step -/

/-- The methods after one more has been listed. -/
theorem methodsOf_addMethod {owner : EntityId} {a : Aggregate}
    (he : i.entity? owner = some (.aggregate a)) (m : Method) (id : EntityId) :
    methodsOf (i.modify owner (Entity.mapAggregate fun a => { a with methods := a.methods ++ [m] })) id =
      methodsOf i id ++ if id = owner then [m] else [] := by
  unfold methodsOf
  rw [Index.entity?_modify]
  by_cases h : id = owner
  · subst h
    simp [he, Entity.mapAggregate, Entity.methods]
  · rw [if_neg (Ne.symm h), if_neg h, List.append_nil]

section AddMethod

variable {position : Nat} {function owner : EntityId} {first : Cursor} {more : List Cursor}
  {short : Name}

/-- Every function that is listed was there before the one that has just been added. -/
theorem JustAdded.lt_of_mem (added : JustAdded r position function s)
    (hreached : ∀ i ∈ s.reached, Grouped r s i) (hm : m ∈ methodsOf s.index id) :
    m.function < function := by
  obtain ⟨before, hbefore, c, hfree, hadd, _⟩ := added
  have hindex : (before.add (.function (r.unit.canonicalCursor position)) (.callable c)).2 =
      s.index := by rw [hadd]
  have hlast : before.entities.length = function := by
    rw [Index.add_of_free hfree] at hadd
    exact (Prod.mk.inj hadd).1
  rw [← hindex, methodsOf_add rfl] at hm
  rw [← hlast]
  exact (hreached before hbefore).function_lt hm

/-- A function that has just been added has a reason to be listed behind its first parameter. -/
theorem JustAdded.groups (added : JustAdded r position function s)
    (declared : parameterCursors r.unit (r.unit.cursor position) = first :: more)
    (behind : r.pointeeAggregate? first.type s.index = some owner)
    (agree : (nameOf s.index owner).method? ((r.unit.cursor position).name r.prefixes) =
      some short) :
    ∃ c last, Groups r s s.index owner ⟨short, function⟩ position c first last := by
  obtain ⟨hpointer, last, hinnermost, hrecord, howner⟩ := pointeeAggregate?_eq_some behind
  have hbound := added.bound
  obtain ⟨before, _, c, hfree, hadd, hfunction, hread⟩ := added
  have hentity := Index.entity?_add_of_free hfree (.callable c)
  rw [hadd] at hentity
  exact ⟨c, last, hentity, hfunction, hbound, hread, by rw [hread.name]; exact agree,
    by rw [declared]; rfl, hpointer, hinnermost, hrecord, howner⟩

/-- **Listing a function that has just been added.** -/
theorem Grouped.addMethod (hreached : ∀ i ∈ s.reached, Grouped r s i)
    (added : JustAdded r position function s)
    (declared : parameterCursors r.unit (r.unit.cursor position) = first :: more)
    (behind : r.pointeeAggregate? first.type s.index = some owner)
    (agree : (nameOf s.index owner).method? ((r.unit.cursor position).name r.prefixes) = some short)
    (hj : j = s.index.modify owner (Entity.mapAggregate fun a =>
      { a with methods := a.methods ++ [⟨short, function⟩] }))
    (step : Step r s (s.goTo j)) : Grouped r (s.goTo j) j := by
  have grouped := hreached _ s.index_mem_reached
  obtain ⟨c, last, hnew⟩ := added.groups declared behind agree
  obtain ⟨_, _, a, ha⟩ := Index.aggregateAt?_eq_some.1 hnew.owner
  have hmethods : ∀ id, methodsOf j id =
      methodsOf s.index id ++ if id = owner then [⟨short, function⟩] else [] := fun id => by
    rw [hj, methodsOf_addMethod ha]
  have hcases : ∀ id, ∀ m ∈ methodsOf j id,
      m ∈ methodsOf s.index id ∨ id = owner ∧ m = ⟨short, function⟩ := by
    intro id m hm
    rw [hmethods, List.mem_append] at hm
    refine hm.imp_right fun hm => ?_
    split at hm
    · exact ⟨‹_›, List.mem_singleton.1 hm⟩
    · cases hm
  constructor
  · intro id m hm
    rcases hcases id m hm with hold | ⟨rfl, rfl⟩
    · obtain ⟨_, _, _, _, hgroups⟩ := grouped.reason id m hold
      exact ⟨_, _, _, _, hgroups.growsTo (.single step) step.growsTo⟩
    · exact ⟨_, _, _, _, hnew.growsTo (.single step) step.growsTo⟩
  · intro id id' m hm m' hm' heq
    rcases hcases id m hm with hold | ⟨rfl, rfl⟩ <;>
      rcases hcases id' m' hm' with hold' | ⟨rfl, rfl⟩
    · exact grouped.single id id' m hold m' hold' heq
    · exact absurd heq (Nat.ne_of_lt (added.lt_of_mem hreached hold))
    · exact absurd heq.symm (Nat.ne_of_lt (added.lt_of_mem hreached hold'))
    · rfl
  · intro id
    rw [hmethods, List.map_append, List.pairwise_append]
    refine ⟨grouped.ascending id, by split <;> simp, fun f hf g hg => ?_⟩
    obtain ⟨m, hm, rfl⟩ := List.mem_map.1 hf
    split at hg
    · obtain rfl := List.mem_singleton.1 hg
      exact added.lt_of_mem hreached hm
    · cases hg

end AddMethod

/-- **A step keeps methods grouped.** -/
theorem Step.grouped (h : Step r s t) (hreached : ∀ i ∈ s.reached, Grouped r s i) :
    Grouped r t t.index := by
  have grouped := hreached _ s.index_mem_reached
  have path : Path r s t := .single h
  have hgrows := h.growsTo
  cases h with
  | warn => exact grouped.path path
  | breakOff => exact grouped.path path
  | resolve type =>
    exact grouped.growsTo path hgrows (methodsOf_mentions (Resolver.mentions_resolve type s.index))
  | resolveMember type =>
    exact grouped.growsTo path hgrows
      (methodsOf_mentions (Resolver.mentions_resolveMember type s.index))
  | declare kind known => exact grouped.growsTo path hgrows (methodsOf_placeholder known)
  | adoptName name =>
    exact grouped.growsTo path hgrows (methodsOf_modify (fun e => e.methods_adoptName name) _ _)
  | describe | addField =>
    refine grouped.growsTo path hgrows (methodsOf_modify (Entity.view_mapAggregate ?_) _ _)
    exact fun _ => rfl
  | fillEnumeration =>
    exact grouped.growsTo path hgrows
      (methodsOf_modify (fun e => e.methods_mapEnumeration _) _ _)
  | addMethod added declared behind agree =>
    exact .addMethod hreached added declared behind agree rfl
      (.addMethod added declared behind agree)
  | addEnumeration | addFunction | addCallback | addConstant =>
    exact grouped.growsTo path hgrows (methodsOf_add rfl _ _)

theorem Path.grouped (h : Path r s t) (hs : ∀ i ∈ s.reached, Grouped r s i) :
    ∀ i ∈ t.reached, Grouped r t i :=
  h.reached hs (fun _ _ _ step hi => hi.path (.single step)) fun _ _ _ step hu => step.grouped hu

/-! ## Every index of a run -/

/-- Each method of an index is listed once. -/
theorem Grouped.nodup (h : Grouped r s i) :
    ((i.entities.flatMap Entity.methods).map (·.function)).Nodup := by
  rw [List.map_flatMap, List.nodup_flatMap]
  have hmethods : ∀ n (hn : n < i.entities.length), methodsOf i n = i.entities[n].methods :=
    fun n hn => methodsOf_of_entity? (List.getElem?_eq_getElem hn)
  constructor
  · intro e he
    obtain ⟨n, hn, rfl⟩ := List.mem_iff_getElem.1 he
    rw [← hmethods n hn]
    exact (h.ascending n).imp Nat.ne_of_lt
  · rw [List.pairwise_iff_getElem]
    intro n n' hn hn' hlt f hf hf'
    obtain ⟨m, hm, rfl⟩ := List.mem_map.1 hf
    obtain ⟨m', hm', heq⟩ := List.mem_map.1 hf'
    rw [← hmethods n hn] at hm
    rw [← hmethods n' hn'] at hm'
    exact absurd (h.single n n' m hm m' hm' heq.symm) (Nat.ne_of_lt hlt)

/-- The methods of an aggregate stand in the order in which the index lists their functions. -/
theorem Grouped.sublist (h : Grouped r s i) (ordered : i.Ordered) (id : EntityId) :
    ((methodsOf i id).map (·.function)).Sublist ((i.collect Entity.function?).map (·.1)) := by
  have hascending : ((i.collect Entity.function?).map (·.1)).Pairwise (· < ·) := by
    rw [ordered.collect_fst]
    exact List.pairwise_lt_range.filter _
  refine List.sublist_of_subperm_of_pairwise ?_ (h.ascending id) hascending
  refine List.subperm_of_subset ((h.ascending id).imp Nat.ne_of_lt) fun f hf => ?_
  obtain ⟨m, hm, rfl⟩ := List.mem_map.1 hf
  obtain ⟨_, c, _, _, hgroups⟩ := h.reason id m hm
  rw [ordered.collect_fst, List.mem_filter, List.mem_range]
  exact ⟨h.function_lt hm, by simp [hgroups.function, Entity.function?, hgroups.free]⟩

/-- **Methods are grouped soundly.**  Whatever is read into the empty index and however this ends, in
every index on the way: each method of an aggregate is a function that was read from a declaration
whose first parameter leads over one or more pointers to this aggregate, under the rest of its name
behind the name that the aggregate has; no function is listed twice, with whatever aggregates; and
the methods of an aggregate stand in the order of their functions in the index. -/
theorem reached_grouped (config : Config) (unit : ParsedUnit) (visible : List String) :
    let r : Resolver := ⟨unit, config.prefixes, visible⟩
    let run := (readUnit config unit visible .initial).2
    ∀ index ∈ run.reached,
      (∀ id a, index.entity? id = some (.aggregate a) → ∀ m ∈ a.methods,
        ∃ position c first last, Groups r run index id m position c first last) ∧
      ((index.entities.flatMap Entity.methods).map (·.function)).Nodup ∧
      ∀ id a, index.entity? id = some (.aggregate a) →
        (a.methods.map (·.function)).Sublist ((index.collect Entity.function?).map (·.1)) := by
  intro r run index hindex
  have path : Path r .initial run := readUnit_path config unit visible .initial
  have hinitial : ∀ i ∈ State.initial.reached, i = .empty := fun i hi => List.mem_singleton.1 hi
  have grouped := path.grouped (fun i hi => hinitial i hi ▸ grouped_empty) index hindex
  have ordered : index.Ordered :=
    path.reached (P := fun _ i => i.Ordered) (fun i hi => hinitial i hi ▸ Index.ordered_empty)
      (fun _ _ _ _ hi => hi)
      (fun u v _ step hu => stable_ordered u v step (hu _ u.index_mem_reached)) index hindex
  refine ⟨fun id a ha m hm => ?_, grouped.nodup, fun id a ha => ?_⟩
  · exact grouped.reason id m (by rw [methodsOf_of_entity? ha]; exact hm)
  · have hsublist := grouped.sublist ordered id
    rw [methodsOf_of_entity? ha] at hsublist
    exact hsublist

/-- A structure that stays a mention, with functions that work on it:
`void widget_open(struct widget *it);`, `int count(struct widget *of);` and
`int widget_count(struct widget **all);`. -/
def widgets : ParsedUnit where
  files := #["widget.h"]
  tokens := #[]
  cursors := #[
    { Cursor.missing with
      kind := .structDecl, spelling := "widget", location := ⟨some 0, 24, 1⟩, type := some 0 },
    { Cursor.missing with
      kind := .functionDecl, spelling := "widget_open", location := ⟨some 0, 5, 1⟩
      result := some 3, children := [4] },
    { Cursor.missing with
      kind := .functionDecl, spelling := "count", location := ⟨some 0, 41, 2⟩
      result := some 4, children := [5] },
    { Cursor.missing with
      kind := .functionDecl, spelling := "widget_count", location := ⟨some 0, 71, 3⟩
      result := some 4, children := [6] },
    { Cursor.missing with
      kind := .parameterDecl, spelling := "it", location := ⟨some 0, 32, 1⟩, type := some 1
      tokens := some [] },
    { Cursor.missing with
      kind := .parameterDecl, spelling := "of", location := ⟨some 0, 62, 2⟩, type := some 1
      tokens := some [] },
    { Cursor.missing with
      kind := .parameterDecl, spelling := "all", location := ⟨some 0, 99, 3⟩, type := some 2
      tokens := some [] }]
  types := #[
    { SourceType.missing with kind := .record, spelling := "struct widget", declaration := some 0 },
    { SourceType.missing with kind := .pointer, spelling := "struct widget *", pointee := some 0 },
    { SourceType.missing with kind := .pointer, spelling := "struct widget **", pointee := some 1 },
    { SourceType.missing with kind := .void, spelling := "void" },
    { SourceType.missing with kind := .int, spelling := "int" }]
  top := [1, 2, 3]
  includes := []
  diagnostics := []

/-- Two of the three functions have names that start with that of the structure. -/
theorem reached_grouped_widgets :
    let config : Config :=
      ⟨Settings.minimal "widget" [.path "widget.h"], by decide, by simp [Settings.minimal]⟩
    let run := (readUnit config widgets ["widget.h"] .initial).2
    run.index ∈ run.reached ∧
      (run.index.collect Entity.function?).map (·.1) = [1, 2, 3] ∧
      ∃ a, run.index.entity? 0 = some (.aggregate a) ∧
        a.methods = [⟨⟨["open"], none⟩, 1⟩, ⟨⟨["count"], none⟩, 3⟩] ∧
        (a.methods.map (·.function)).Sublist ((run.index.collect Entity.function?).map (·.1)) := by
  intro config run
  have hreached := run.index_mem_reached
  have hentity : run.index.entity? 0 = some (.aggregate ⟨⟨["widget"], some "widget"⟩, false, [], [],
      [⟨⟨["open"], none⟩, 1⟩, ⟨⟨["count"], none⟩, 3⟩]⟩) := by decide +kernel
  obtain ⟨_, _, hsublist⟩ := reached_grouped config widgets ["widget.h"] run.index hreached
  exact ⟨hreached, by decide +kernel, _, hentity, rfl, hsublist 0 _ hentity⟩

end HeaderIndex.Reader
