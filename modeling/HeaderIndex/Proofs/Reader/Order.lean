import HeaderIndex.Proofs.Reader.Step

/-!
# The order of an index

What is added to an index goes to the end of its store and to the end of its bindings, so both are in
the order in which the entities were added.

* `Index.Ordered` — the keys lead to the entities of the store one after the other.
* `stable_ordered` — every step keeps this.
* `Ordered.collect_snd`, `Ordered.collect_fst` — what an ordered index lists of one sort stands in the
  order of the store.
-/

namespace HeaderIndex

namespace Index

variable {i j : Index}

/-- Whether the keys lead to the entities of the store one after the other, to each from one key. -/
def Ordered (index : Index) : Prop := index.bound = List.range index.entities.length

theorem ordered_empty : empty.Ordered := rfl

theorem Ordered.modify (h : i.Ordered) (id : EntityId) (f : Entity → Entity) :
    (i.modify id f).Ordered := by
  unfold Ordered at h ⊢
  simpa [bound, Index.modify] using h

theorem Ordered.add (h : i.Ordered) (key : Key) (e : Entity) : (i.add key e).2.Ordered := by
  cases hl : i.lookup key with
  | some taken => rw [add_of_taken hl]; exact h
  | none =>
    unfold Ordered bound at h ⊢
    rw [add_of_free hl, List.map_append, h, List.length_append, List.length_singleton,
      List.range_succ]
    rfl

theorem Ordered.placeholder {key : Key} {name : Name} {isUnion : Bool} {id : EntityId}
    (h : i.Ordered) (hp : i.placeholder key name isUnion = .ok (id, j)) : j.Ordered :=
  of_placeholder hp h (h.add _ _)

theorem Ordered.mentions {r : Resolver} (h : i.Ordered) (hm : r.Mentions i j) : j.Ordered := by
  cases hm with
  | nothing => exact h
  | placeholder => exact h.add _ _

/-! ## What an ordered index lists -/

theorem map_getElem?_range {α : Type} (l : List α) :
    (List.range l.length).map (l[·]?) = l.map some := by
  refine List.ext_getElem (by simp) fun n h₁ h₂ => ?_
  simp at h₁ ⊢

/-- The entities of one sort are listed in the order of the store. -/
theorem Ordered.collect_snd {α : Type} (h : i.Ordered) (sort : Entity → Option α) :
    (i.collect sort).map (·.2) = i.entities.filterMap sort := by
  calc (i.collect sort).map (·.2)
      = (List.range i.entities.length).filterMap fun id => (i.entities[id]?).bind sort := by
        rw [collect, h, List.map_filterMap]
        congr 1
        funext id
        rw [Option.map_map, entity?]
        exact Option.map_id'
    _ = (i.entities.map some).filterMap fun e => e.bind sort := by
        rw [← map_getElem?_range, List.filterMap_map]
        rfl
    _ = i.entities.filterMap sort := by
        rw [List.filterMap_map]
        rfl

/-- The positions of the entities of one sort ascend. -/
theorem Ordered.collect_fst {α : Type} (h : i.Ordered) (sort : Entity → Option α) :
    (i.collect sort).map (·.1) =
      (List.range i.entities.length).filter fun id => ((i.entity? id).bind sort).isSome := by
  rw [collect, h, List.map_filterMap, ← List.filterMap_eq_filter]
  congr 1
  funext id
  cases hsort : (i.entity? id).bind sort <;> simp [Option.guard, hsort]

end Index

namespace Reader

/-- **Steps keep an index in order.** -/
theorem stable_ordered {r : Resolver} : Stable r fun s => s.index.Ordered := by
  intro s t step h
  cases step with
  | warn => exact h
  | breakOff => exact h
  | resolve type => exact h.mentions (Resolver.mentions_resolve type s.index)
  | resolveMember type => exact h.mentions (Resolver.mentions_resolveMember type s.index)
  | declare kind known => exact h.placeholder known
  | adoptName | describe | addField | fillEnumeration | addMethod => exact h.modify _ _
  | addEnumeration | addFunction | addCallback | addConstant => exact h.add _ _

end Reader

end HeaderIndex
