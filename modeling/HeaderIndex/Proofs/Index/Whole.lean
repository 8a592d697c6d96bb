import HeaderIndex.Index.Text
import HeaderIndex.Proofs.Index.Closed
import HeaderIndex.Proofs.Name.Whole

/-!
# Indexes of whole names

* `Entity.names` — all names in an entity, at any depth of its types.
* `Index.Whole` — no name in an index has an empty word.
* `Whole.add`, `Whole.modify`, `Whole.placeholder` — names stay whole when an entity with whole names
  is added, and when one is changed into such an entity.
* `Whole.nameOf` — the name of a type is whole if those that it shows itself are.
-/

namespace HeaderIndex

/-- The names that a type shows without looking at entities: what pointers point to. -/
def CType.pointees : CType → List Name
  | .pointer pointee _ => [pointee]
  | .array element _ => element.pointees
  | _ => []

namespace Entity

/-- The names of the parts of an entity: its constants, fields, methods and parameters. -/
def partNames : Entity → List Name
  | enumeration e => e.constants.map (·.name)
  | aggregate a => a.fields.map (·.name) ++ a.methods.map (·.name)
  | callable c => c.parameters.map (·.name)
  | constant _ => []

/-- The names of an enumeration's constants without what they share with its own name. -/
def shortNames : Entity → List Name
  | enumeration e => e.shortNames
  | aggregate _ | callable _ | constant _ => []

/-- All names in an entity: its own, those of its parts, the shortened ones of its constants, and
those that its types show. -/
def names (e : Entity) : List Name :=
  e.name :: (e.partNames ++ e.shortNames ++ e.types.flatMap CType.pointees)

/-- Whether no name in an entity has an empty word. -/
def Whole (e : Entity) : Prop := ∀ name ∈ e.names, name.Whole

instance (e : Entity) : Decidable e.Whole :=
  inferInstanceAs (Decidable (∀ name ∈ e.names, name.Whole))

/-- Shortened names are whole where the names that they come from are. -/
theorem whole_iff {e : Entity} : e.Whole ↔ e.name.Whole ∧ (∀ name ∈ e.partNames, name.Whole) ∧
    ∀ type ∈ e.types, ∀ name ∈ type.pointees, name.Whole := by
  have hshort : (∀ name ∈ e.partNames, name.Whole) → ∀ short ∈ e.shortNames, short.Whole := by
    intro h
    cases e with
    | enumeration e => exact Name.whole_shorten h
    | _ => exact fun short hshort => absurd hshort List.not_mem_nil
  simp only [Whole, names, List.forall_mem_cons, List.forall_mem_append, List.forall_mem_flatMap]
  exact ⟨fun ⟨hname, ⟨hparts, _⟩, htypes⟩ => ⟨hname, hparts, htypes⟩,
    fun ⟨hname, hparts, htypes⟩ => ⟨hname, ⟨hparts, hshort hparts⟩, htypes⟩⟩

variable {e : Entity}

theorem whole_placeholder {name : Name} (h : name.Whole) (isUnion : Bool) :
    (aggregate (.placeholder name isUnion)).Whole :=
  whole_iff.2 ⟨h, by simp [partNames, Aggregate.placeholder],
    by simp [types, Aggregate.placeholder]⟩

theorem Whole.adoptName (h : e.Whole) {name : Name} (hname : name.Whole) :
    (e.adoptName name).Whole := by
  obtain ⟨hown, hparts, htypes⟩ := whole_iff.1 h
  refine whole_iff.2 ⟨?_, ?_, by rwa [types_adoptName]⟩
  · cases e with
    | enumeration e =>
      show (if e.name.isEmpty then { e with name } else e).name.Whole
      split
      · exact hname
      · exact hown
    | aggregate a =>
      show (if a.name.isEmpty then { a with name } else a).name.Whole
      split
      · exact hname
      · exact hown
    | _ => exact hown
  · have hsame : (e.adoptName name).partNames = e.partNames := by
      cases e with
      | enumeration e => simp only [Entity.adoptName, partNames]; split <;> rfl
      | aggregate a => simp only [Entity.adoptName, partNames]; split <;> rfl
      | _ => rfl
    rwa [hsame]

end Entity

/-- Whether no name in an index has an empty word. -/
def Index.Whole (index : Index) : Prop := ∀ id e, index.entity? id = some e → e.Whole

namespace Index

variable {i j : Index} {key : Key} {id : EntityId}

theorem whole_empty : empty.Whole := fun _ _ h => by simp [empty, entity?] at h

theorem Whole.modify {f : Entity → Entity} (h : i.Whole)
    (hf : ∀ e, i.entity? id = some e → e.Whole → (f e).Whole) : (i.modify id f).Whole := by
  intro other e he
  rw [entity?_modify] at he
  split at he
  · obtain ⟨e', he', rfl⟩ := Option.map_eq_some_iff.1 he
    subst other
    exact hf e' he' (h id e' he')
  · exact h other e he

theorem Whole.add {e : Entity} (h : i.Whole) (he : e.Whole) : (i.add key e).2.Whole := by
  cases hl : i.lookup key with
  | some taken => rwa [add_of_taken hl]
  | none =>
    rw [add_of_free hl]
    intro other f hf
    have hmem : f ∈ i.entities ++ [e] := List.mem_of_getElem? hf
    rcases List.mem_append.1 hmem with hmem | hmem
    · obtain ⟨n, hn⟩ := List.mem_iff_getElem?.1 hmem
      exact h n f hn
    · obtain rfl := List.mem_singleton.1 hmem
      exact he

theorem Whole.placeholder {name : Name} {isUnion : Bool} (h : i.Whole) (hname : name.Whole)
    (hp : i.placeholder key name isUnion = .ok (id, j)) : j.Whole :=
  of_placeholder hp h (h.add (Entity.whole_placeholder hname isUnion))

/-- The name of an entity of the index is whole, and so is the one for a position without entity. -/
theorem Whole.getD_name (h : i.Whole) (id : EntityId) :
    Name.Whole (((i.entity? id).map (·.name)).getD .anonymous) := by
  cases he : i.entity? id with
  | none => exact Name.whole_anonymous
  | some e => exact (Entity.whole_iff.1 (h id e he)).1

theorem Whole.nameOf (h : i.Whole) {type : CType} (hword : ∀ word, type = .primitive word → word ≠ "")
    (hpointees : ∀ name ∈ type.pointees, name.Whole) : (i.nameOf type).Whole := by
  cases type with
  | primitive word => exact Name.whole_ofWord (hword word rfl)
  | byValue id => exact h.getD_name id
  | entity id => exact h.getD_name id
  | pointer pointee depth => exact hpointees pointee (List.mem_singleton_self _)
  | foreign text => exact Name.whole_anonymous
  | string => exact Name.whole_ofWord (by decide)
  | array element size => exact Name.whole_ofWord (by decide)
  | unknown => exact Name.whole_ofWord (by decide)

end Index

end HeaderIndex
