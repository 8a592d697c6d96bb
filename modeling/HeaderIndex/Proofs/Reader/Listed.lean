import HeaderIndex.Proofs.Reader.Keeps

/-!
# What an index lists besides types

Constants and functions have keys of their own, which no declaration of a type has.

* `listed` — the bound keys of one family and the entities of one sort, in the order of the store.
* `listed_add_self`, `listed_add_other` — an entity of the sort under a free key is listed behind the
  others; what has a key of another family is not listed.
* `OfNoType` — keys and entities that no type has; what reading types does leaves them alone.
* `keeps_readTagWithin`, `keeps_readTypedef`, `keeps_readFunction`, `keeps_readMacro` — the readers
  that leave a listing alone.
-/

namespace HeaderIndex.Reader

variable {κ α : Type} {key : κ → Key} {sort : Entity → Option α} {i j : Index}

/-- The keys of a family that are bound in an index, and its entities of one sort in the order of the
store. -/
def listed (key : κ → Key) (sort : Entity → Option α) (index : Index) : (κ → Bool) × List α :=
  (fun k => index.contains (key k), index.entities.filterMap sort)

/-- The macros that have been recorded, and their constants. -/
abbrev listedConstants : Index → (String → Bool) × List Constant :=
  listed Key.ofMacro Entity.constant?

/-- The functions that have been recorded, by their first declarations. -/
abbrev listedFunctions : Index → (Nat → Bool) × List Callable :=
  listed Key.function Entity.function?

/-- A listing with one entity more, which has a key of the family. -/
def withEntry (key : κ → Key) (k : κ) (a : α) (before : (κ → Bool) × List α) : (κ → Bool) × List α :=
  (fun other => before.1 other || decide (key other = key k), before.2 ++ [a])

/-! ## Adding and changing -/

/-- An entity under a key that was free is listed behind the others. -/
theorem listed_add_self {k : κ} {e : Entity} {a : α} (hfree : i.lookup (key k) = none)
    (hsort : sort e = some a) :
    listed key sort (i.add (key k) e).2 = withEntry key k a (listed key sort i) := by
  refine Prod.ext (funext fun k' => ?_) ?_
  · simp only [listed, withEntry, Index.contains, Index.lookup_add]
    by_cases hk : key k' = key k <;> simp [hk]
  · simp [listed, withEntry, Index.add_of_free hfree, hsort]

/-- An entity of another sort under a key of another family is not listed. -/
theorem listed_add_other {k : Key} {e : Entity} (hkey : ∀ k', key k' ≠ k) (hsort : sort e = none)
    (i : Index) : listed key sort (i.add k e).2 = listed key sort i := by
  cases hl : i.lookup k with
  | some taken => rw [Index.add_of_taken hl]
  | none =>
    refine Prod.ext (funext fun k' => ?_) ?_
    · simp [listed, Index.contains, Index.lookup_add, hkey k']
    · simp [listed, Index.add_of_free hl, hsort]

theorem filterMap_modify {β : Type} {f : α → Option β} {g : α → α} (h : ∀ a, f (g a) = f a)
    (l : List α) (n : Nat) : (l.modify n g).filterMap f = l.filterMap f := by
  induction l generalizing n with
  | nil => simp
  | cons a l ih =>
    cases n with
    | zero => simp [List.filterMap_cons, h]
    | succ n => simp [List.filterMap_cons, ih]

theorem listed_modify {f : Entity → Entity} (h : ∀ e, sort (f e) = sort e) (i : Index)
    (id : EntityId) : listed key sort (i.modify id f) = listed key sort i :=
  Prod.ext rfl (filterMap_modify h i.entities id)

/-! ## Types are not listed -/

/-- Whether no type is listed: neither does it have a key of the family nor is it of the sort. -/
structure OfNoType (key : κ → Key) (sort : Entity → Option α) : Prop where
  keys : ∀ k position, key k ≠ .undeclared ∧ key k ≠ .type position
  entities : ∀ e, e.IsType → sort e = none

theorem ofNoType_constants : OfNoType Key.ofMacro Entity.constant? where
  keys := fun _ _ => ⟨nofun, nofun⟩
  entities := by
    intro e he
    cases e with
    | constant c => cases he
    | _ => rfl

theorem ofNoType_functions : OfNoType Key.function Entity.function? where
  keys := fun _ _ => ⟨nofun, nofun⟩
  entities := by
    intro e he
    cases e with
    | callable c => simp [Entity.function?, show c.isCallback = true from he]
    | _ => rfl

section OfNoType

variable {r : Resolver} (h : OfNoType key sort)
include h

theorem OfNoType.ne_typeKey (unit : ParsedUnit) (type : TypeRef) (k : κ) :
    key k ≠ unit.typeKey type := by
  rcases Resolver.typeKey_cases unit type with hk | ⟨position, hk⟩ <;> rw [hk]
  · exact (h.keys k 0).1
  · exact (h.keys k position).2

theorem OfNoType.aggregate (a : Aggregate) : sort (.aggregate a) = none :=
  h.entities (.aggregate a) trivial

theorem OfNoType.enumeration (e : Enumeration) : sort (.enumeration e) = none :=
  h.entities (.enumeration e) trivial

theorem OfNoType.mapAggregate (f : Aggregate → Aggregate) (e : Entity) :
    sort (e.mapAggregate f) = sort e :=
  Entity.view_mapAggregate (fun _ => (h.aggregate _).trans (h.aggregate _).symm) e

theorem OfNoType.mapEnumeration (f : Enumeration → Enumeration) (e : Entity) :
    sort (e.mapEnumeration f) = sort e := by
  cases e with
  | enumeration e => exact (h.enumeration _).trans (h.enumeration _).symm
  | _ => rfl

theorem OfNoType.adoptName (name : Name) (e : Entity) : sort (e.adoptName name) = sort e := by
  cases e with
  | enumeration e => exact (h.enumeration _).trans (h.enumeration _).symm
  | aggregate a => exact (h.aggregate _).trans (h.aggregate _).symm
  | _ => rfl

theorem OfNoType.mentions (i j : Index) (hm : r.Mentions i j) :
    listed key sort j = listed key sort i := by
  cases hm with
  | nothing => rfl
  | placeholder => exact listed_add_other (fun k => (h.keys k _).2) (h.aggregate _) i

/-! ## Readers that leave a listing alone -/

theorem keeps_adoptName (id : EntityId) (name : Name) :
    Keeps (listed key sort) (Action.update fun i => i.adoptName id name) :=
  .update fun i => listed_modify (h.adoptName name) i id

theorem keeps_mapAggregate (id : EntityId) (f : Aggregate → Aggregate) :
    Keeps (listed key sort) (Action.update fun i => i.modify id (Entity.mapAggregate f)) :=
  .update fun i => listed_modify (h.mapAggregate f) i id

theorem keeps_addType (type : TypeRef) {e : Entity} (he : e.IsType) :
    Keeps (listed key sort) (Action.add (r.unit.typeKey type) e) :=
  .add (listed_add_other (h.ne_typeKey r.unit type) (h.entities e he))

theorem keeps_donateName (type : TypeRef) (name : Name) :
    Keeps (listed key sort) (donateName r type name) := by
  refine Keeps.bind Keeps.index fun index => ?_
  split
  · exact keeps_adoptName h _ name
  · exact Keeps.pure ()

theorem keeps_readEnumeration (cursor : Cursor) (comment : List String) :
    Keeps (listed key sort) (readEnumeration r cursor comment) := by
  unfold readEnumeration
  refine Keeps.bind Keeps.index fun index => ?_
  dsimp only
  split
  · exact Keeps.pure ()
  refine Keeps.bind (Keeps.breakOff _) fun _ => Keeps.bind (Keeps.warn _) fun _ => ?_
  split
  · refine Keeps.bind (keeps_adoptName h _ _) fun _ => ?_
    exact Keeps.update fun i => listed_modify (h.mapEnumeration _) i _
  · exact Keeps.bind (keeps_addType h _ trivial) fun _ => Keeps.pure ()

theorem keeps_readMember {read : Nat → Action Unit}
    (hread : ∀ inner, Keeps (listed key sort) (read inner)) (id : EntityId) (member : Member) :
    Keeps (listed key sort) (readMember r read id member) := by
  cases member with
  | nested inner => exact hread inner
  | field nested child description =>
    have hrest : Keeps (listed key sort)
        (do
          let type ← Action.resolve (r.resolveMember (r.unit.cursor child).type)
          Action.update fun index => index.modify id (Entity.mapAggregate fun a =>
            { a with fields := a.fields ++
              [⟨(r.unit.cursor child).name r.prefixes, type, description⟩] })) :=
      Keeps.bind (Keeps.resolveMember h.mentions _) fun type => keeps_mapAggregate h id _
    cases nested with
    | none => exact hrest
    | some inner =>
      refine Keeps.bind (hread inner) fun _ => Keeps.bind Keeps.index fun index => ?_
      exact Keeps.bind (keeps_donateName h _ _) fun _ => hrest

theorem keeps_readTagWithin (levels position : Nat) (comment : List String) :
    Keeps (listed key sort) (readTagWithin r levels position comment) := by
  induction levels generalizing position comment with
  | zero => exact Keeps.fail _
  | succ levels ih =>
    unfold readTagWithin
    dsimp only
    split
    · exact keeps_readEnumeration h _ comment
    unfold readAggregate
    refine Keeps.bind (Keeps.placeholder fun i j id hp => ?_) fun id => ?_
    · exact Index.of_placeholder hp rfl (listed_add_other (h.ne_typeKey r.unit _) (h.aggregate _) i)
    refine Keeps.bind (keeps_adoptName h _ _) fun _ => ?_
    split
    · exact Keeps.pure ()
    refine Keeps.bind Keeps.index fun index => ?_
    split
    · exact Keeps.fail _
    refine Keeps.bind (keeps_mapAggregate h _ _) fun _ => ?_
    exact Keeps.each fun member _ => keeps_readMember h (fun inner => ih inner []) id member

theorem keeps_readTypedef (cursor : Cursor) (comment : List String) :
    Keeps (listed key sort) (readTypedef r cursor comment) := by
  unfold readTypedef
  split
  · unfold readCallback
    refine Keeps.bind (Keeps.resolve h.mentions _) fun result => ?_
    refine Keeps.bind (Keeps.collect (keeps_readCallbackParameter h.mentions)) fun parameters => ?_
    refine Keeps.bind (keeps_addType h _ ?_) fun _ => Keeps.pure ()
    rfl
  · split
    · exact keeps_donateName h _ _
    · exact Keeps.pure ()

theorem keeps_groupMethod (function : EntityId) (name : Name) (first : TypeRef) :
    Keeps (listed key sort) (groupMethod r function name first) := by
  refine Keeps.bind Keeps.index fun index => ?_
  split
  · split
    · exact keeps_mapAggregate h _ _
    · exact Keeps.pure ()
  · exact Keeps.pure ()

/-- Functions are listed only among functions. -/
theorem keeps_readFunction (config : Config) (position : Nat) (comment : List String)
    (hkey : ∀ k c, key k ≠ .function c)
    (hsort : ∀ c : Callable, sort (.callable c) = none) :
    Keeps (listed key sort) (readFunction config r position comment) := by
  unfold readFunction
  refine Keeps.bind Keeps.index fun index => ?_
  dsimp only
  split
  · exact Keeps.pure ()
  refine Keeps.bind (Keeps.resolve h.mentions _) fun result => ?_
  refine Keeps.bind (Keeps.collect (keeps_readParameter h.mentions)) fun parameters => ?_
  refine Keeps.bind (Keeps.add (listed_add_other (fun k => hkey k _) (hsort _))) fun id => ?_
  split
  · exact Keeps.pure ()
  · exact keeps_groupMethod h _ _ _

omit h in
/-- Constants are listed only among constants. -/
theorem keeps_readMacro (cursor : Cursor) (hkey : ∀ k s, key k ≠ .ofMacro s)
    (hsort : ∀ c : Constant, sort (.constant c) = none) :
    Keeps (listed key sort) (readMacro r cursor) := by
  unfold readMacro
  dsimp only
  split
  · exact Keeps.pure ()
  refine Keeps.bind Keeps.index fun index => ?_
  split
  · exact Keeps.pure ()
  refine Keeps.bind (Keeps.breakOff _) fun _ => ?_
  split
  · exact Keeps.bind (Keeps.add (listed_add_other (fun k => hkey k _) (hsort _)))
      fun _ => Keeps.pure ()
  · exact Keeps.warn _

end OfNoType

end HeaderIndex.Reader
