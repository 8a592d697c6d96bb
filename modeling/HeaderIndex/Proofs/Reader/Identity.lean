import HeaderIndex.Proofs.Reader.Run

/-!
# Identity of entities over a run

* `reached_growsTo` — of two indexes that one run passes through, the later one grows out of the
  earlier one; in particular an aggregate that was known before its definition was read is the one
  that the definition fills.
-/

namespace HeaderIndex.Reader

theorem fieldsOf_of_aggregate {i : Index} {id : EntityId} {a : Aggregate}
    (h : i.entity? id = some (.aggregate a)) : fieldsOf i id = a.fields := by
  simp [fieldsOf, h, Entity.aggregate?]

theorem fieldsOf_growsTo {i j : Index} {key : Key} {id : EntityId} (h : i.GrowsTo j)
    (ha : i.aggregateAt? key = some id) : fieldsOf i id <+: fieldsOf j id := by
  obtain ⟨_, _, a, he⟩ := Index.aggregateAt?_eq_some.1 ha
  obtain ⟨e', he', hg⟩ := h.entities id _ he
  obtain ⟨a', rfl, hf, _⟩ := hg.aggregate
  rw [fieldsOf_of_aggregate he, fieldsOf_of_aggregate he']
  exact hf

/-- **Identity is stable over a run**, from whatever index it starts and also if it ends in an
error: the later of two indexes that it passes through grows out of the earlier one.  Hence an
aggregate that a reference found under a key is found under this key ever after, has the fields that
it had and those added since, and is the one that a definition read under this key fills. -/
theorem reached_growsTo (config : Config) (unit : ParsedUnit) (visible : List String)
    (start : Index) :
    (readUnit config unit visible (.startingFrom start)).2.reached.Pairwise fun later earlier =>
      earlier.GrowsTo later ∧
      ∀ key id, earlier.aggregateAt? key = some id →
        later.aggregateAt? key = some id ∧ fieldsOf earlier id <+: fieldsOf later id ∧
          ∀ name isUnion, later.placeholder key name isUnion = .ok (id, later) := by
  have path := readUnit_path config unit visible (.startingFrom start)
  have hstart : (State.startingFrom start).reached.Pairwise fun later earlier =>
      earlier.GrowsTo later := List.pairwise_singleton ..
  refine (path.pairwise hstart).imp fun hgrows => ⟨hgrows, fun key id ha => ?_⟩
  have hlater := hgrows.aggregateAt? ha
  obtain ⟨_, hl, a, he⟩ := Index.aggregateAt?_eq_some.1 hlater
  exact ⟨hlater, fieldsOf_growsTo hgrows ha, Index.placeholder_of_aggregate hl he⟩

end HeaderIndex.Reader
