import HeaderIndex.Proofs.Index.Whole
import HeaderIndex.Proofs.Reader.Run

/-!
# Whole names over a run

* `spelled_namedPointer`, `spelled_resolve`, `spelled_resolveMember` — what a type resolves to shows
  only whole names.
* `whole_enumerators`, `NamedBy.whole` — so do the constants of an enumeration and what is offered as
  a name.
* `Step.whole`, `Path.whole` — a step between indexes of whole names leads to such an index, and so
  does a run.
-/

namespace HeaderIndex

theorem TypeKind.word_ne_empty (kind : TypeKind) : kind.word ≠ "" := by
  have hspelling : kind.spelling ≠ "" := by cases kind <;> decide
  unfold word
  simpa [← String.toList_eq_nil_iff] using hspelling

/-- What a type shows without looking at entities has no empty word. -/
structure CType.Spelled (type : CType) : Prop where
  word : ∀ word, type = .primitive word → word ≠ ""
  pointees : ∀ name ∈ type.pointees, name.Whole

namespace Resolver

variable {r : Resolver} {i j : Index}

/-! ## Types -/

/-- A type that is neither a word nor a pointer shows nothing. -/
theorem spelled_of_nil {type : CType} (hword : ∀ word, type ≠ .primitive word)
    (hpointees : type.pointees = []) : type.Spelled :=
  ⟨fun word h => absurd h (hword word), by simp [hpointees]⟩

theorem spelled_array {element : CType} (h : element.Spelled) (size : Int) :
    (CType.array element size).Spelled :=
  ⟨fun _ hword => (nomatch hword), h.pointees⟩

theorem whole_nameBehind (levels : Nat) {type : TypeRef} {depth depth' : Nat} {name : Name}
    (h : r.nameBehind levels type depth = some (name, depth')) : name.Whole := by
  induction levels generalizing type depth with
  | zero => cases h
  | succ levels ih =>
    unfold nameBehind at h
    dsimp only at h
    split at h
    · cases h
      exact whole_name _ _
    split at h
    · exact ih h
    split at h
    · cases h
      exact whole_name _ _
    · cases h
      exact Name.whole_split _ _

theorem spelled_namedPointer {named : TypeRef} {depth : Nat} {type : CType}
    (h : r.namedPointer named depth = .ok type) : type.Spelled := by
  unfold namedPointer at h
  split at h
  · rename_i name depth' hname
    cases h
    refine ⟨fun _ hword => (nomatch hword), fun pointee hpointee => ?_⟩
    obtain rfl := List.mem_singleton.1 hpointee
    exact whole_nameBehind r.levels hname
  · cases h

theorem spelled_pointer {named pointee : TypeRef} {depth : Nat} {type : CType}
    (h : r.pointer named pointee depth i = (.ok type, j)) : type.Spelled := by
  unfold pointer at h
  dsimp only at h
  split at h
  · cases h
    exact spelled_of_nil (fun _ => nofun) rfl
  split at h
  · split at h
    · cases h
      exact spelled_of_nil (fun _ => nofun) rfl
    · exact spelled_namedPointer (Prod.mk.inj h).1
  split at h
  · split at h
    · cases h
      exact spelled_of_nil (fun _ => nofun) rfl
    · exact spelled_namedPointer (Prod.mk.inj h).1
  · exact spelled_namedPointer (Prod.mk.inj h).1

theorem spelled_resolveWithin (levels : Nat) {source : TypeRef} {type : CType}
    (h : r.resolveWithin levels source i = (.ok type, j)) : type.Spelled := by
  induction levels generalizing source type j with
  | zero => cases h
  | succ levels ih =>
    unfold resolveWithin at h
    dsimp only at h
    split at h
    · cases h
      refine ⟨fun word hword => ?_, by simp [CType.pointees]⟩
      cases hword
      exact TypeKind.word_ne_empty _
    split at h
    · exact spelled_pointer h
    split at h
    · exact spelled_pointer h
    split at h
    · split at h
      all_goals
        cases h
        exact spelled_of_nil (fun _ => nofun) rfl
    split at h
    · split at h
      all_goals
        cases h
        exact spelled_of_nil (fun _ => nofun) rfl
    split at h
    · -- an array shows what its elements show
      split at h
      · rename_i element index helement
        cases h
        exact spelled_array (ih helement) _
      · cases h
    split at h
    · cases h
      exact spelled_of_nil (fun _ => nofun) rfl
    · cases h

/-- **What a type resolves to shows only whole names.** -/
theorem spelled_resolve {source : TypeRef} {type : CType}
    (h : r.resolve source i = (.ok type, j)) : type.Spelled :=
  spelled_resolveWithin r.levels h

theorem spelled_resolveMember {source : TypeRef} {type : CType}
    (h : r.resolveMember source i = (.ok type, j)) : type.Spelled := by
  unfold resolveMember at h
  split at h
  · split at h
    · rename_i element index helement
      cases h
      exact spelled_array (spelled_resolve helement) 0
    · cases h
  · exact spelled_resolve h

theorem Mentions.whole (h : r.Mentions i j) (hi : i.Whole) : j.Whole := by
  cases h with
  | nothing => exact hi
  | placeholder => exact hi.add (Entity.whole_placeholder (whole_name _ _) _)

end Resolver

namespace Reader

variable {r : Resolver} {s t : State}

/-! ## Names of parts -/

theorem whole_addEnumerator {unit : ParsedUnit} {prefixes : List String} {texts : Comment.Texts}
    {read : Enumerators} (h : ∀ constant ∈ read.constants, constant.name.Whole) (cursor : Cursor) :
    ∀ constant ∈ (read.add unit prefixes texts cursor).constants, constant.name.Whole := by
  unfold Enumerators.add
  dsimp only
  split
  · intro constant hconstant
    rcases List.mem_append.1 hconstant with hconstant | hconstant
    · exact h constant hconstant
    · obtain rfl := List.mem_singleton.1 hconstant
      exact whole_name prefixes cursor
  · exact h

theorem whole_enumerators (unit : ParsedUnit) (prefixes : List String) (texts : Comment.Texts)
    (cursor : Cursor) :
    ∀ constant ∈ (enumerators unit prefixes texts cursor).constants, constant.name.Whole := by
  have hfold : ∀ (children : List Cursor) (read : Enumerators),
      (∀ constant ∈ read.constants, constant.name.Whole) →
      ∀ constant ∈ (children.foldl (Enumerators.add unit prefixes texts) read).constants,
        constant.name.Whole := by
    intro children
    induction children with
    | nil => exact fun _ h => h
    | cons child rest ih => exact fun _ h => ih _ (whole_addEnumerator h child)
  exact hfold _ _ (by simp)

theorem NamedBy.whole {index : Index} {type : TypeRef} {name : Name} (h : NamedBy r index type name)
    (hi : index.Whole) : name.Whole := by
  cases h with
  | declaration => exact whole_name _ _
  | typedef => exact whole_name _ _
  | field => exact (hi.getD_name _).append (whole_name _ _)

/-- The name that a parameter has instead of an empty one is that of its type. -/
theorem whole_parameter {source : TypeRef} {type : CType} {before after : Index} {declared name : Name}
    (hafter : after.Whole) (hresolve : r.resolve source before = (.ok type, after))
    (hdeclared : declared.Whole)
    (hname : name = if declared.isEmpty then after.nameOf type else declared) : name.Whole := by
  rw [hname]
  split
  · have hspelled := Resolver.spelled_resolve hresolve
    exact hafter.nameOf hspelled.word hspelled.pointees
  · exact hdeclared

theorem ReadFrom.whole_parameters {position : Nat} {c : Callable} (h : ReadFrom r s position c)
    (hs : ∀ i ∈ s.reached, i.Whole) : ∀ p ∈ c.parameters, p.name.Whole := by
  obtain ⟨_, _, hread⟩ := h
  obtain ⟨parameters, ⟨_, _, _, _, hparameters⟩, hdescribed⟩ := hread.signature
  have hwhole : ∀ p ∈ parameters, p.name.Whole :=
    hparameters.forall_mem fun _ after _ _ _ hafter hresolve =>
      whole_parameter (hs after hafter) hresolve (whole_name _ _) rfl
  have hnames : c.parameters.map (·.name) = parameters.map (·.name) := by
    rw [hdescribed, map_describe_of_eq fun _ _ => rfl]
  intro p hp
  obtain ⟨q, hq, heq⟩ := List.mem_map.1 (hnames ▸ List.mem_map_of_mem hp)
  exact heq ▸ hwhole q hq

theorem ReadsArgument.whole {argument : TypeRef × Option Cursor} {p : Parameter}
    (h : ReadsArgument r s argument p) (hs : ∀ i ∈ s.reached, i.Whole) : p.name.Whole := by
  obtain ⟨before, _, after, hafter, hresolve, hname⟩ := h
  refine whole_parameter (hs after hafter) hresolve ?_ hname
  unfold argumentName
  cases argument.2 with
  | none => exact Name.whole_of_parts_nil rfl
  | some cursor => exact whole_name _ _

theorem Resolved.spelled {resolution : Resolution CType} {type : CType}
    (h : Resolved resolution s type)
    (hspelled : ∀ i j : Index, resolution i = (.ok type, j) → type.Spelled) : type.Spelled := by
  obtain ⟨i, _, hok, _⟩ := h
  exact hspelled i _ (Prod.ext hok rfl)

/-- A function or callback is whole where its name and those of its parameters are, if its types were
resolved. -/
theorem AllResolved.whole {c : Callable} (h : AllResolved r (Entity.callable c).types s)
    (hname : c.name.Whole) (hparameters : ∀ p ∈ c.parameters, p.name.Whole) :
    (Entity.callable c).Whole := by
  refine Entity.whole_iff.2 ⟨hname, ?_, fun type ht => ?_⟩
  · intro name hname
    obtain ⟨p, hp, rfl⟩ := List.mem_map.1 hname
    exact hparameters p hp
  · obtain ⟨source, hsource⟩ := h type ht
    exact (hsource.spelled fun _ _ => Resolver.spelled_resolve).pointees

/-! ## Steps -/

/-- Changing an aggregate keeps its names whole if this adds only whole names. -/
theorem whole_mapAggregate {e : Entity} {f : Aggregate → Aggregate} (he : e.Whole)
    (hname : ∀ a, (f a).name = a.name)
    (hfields : ∀ a, ∀ field ∈ (f a).fields,
      field ∈ a.fields ∨ field.name.Whole ∧ ∀ name ∈ field.type.pointees, name.Whole)
    (hmethods : ∀ a, ∀ method ∈ (f a).methods, method ∈ a.methods ∨ method.name.Whole) :
    (e.mapAggregate f).Whole := by
  cases e with
  | aggregate a =>
    obtain ⟨hown, hparts, htypes⟩ := Entity.whole_iff.1 he
    refine Entity.whole_iff.2 ⟨?_, fun name hmem => ?_, fun type htype => ?_⟩
    · rw [Entity.mapAggregate, Entity.name, hname]
      exact hown
    · rcases List.mem_append.1 hmem with hmem | hmem
      · obtain ⟨field, hfield, rfl⟩ := List.mem_map.1 hmem
        rcases hfields a field hfield with hold | hnew
        · exact hparts _ (List.mem_append_left _ (List.mem_map_of_mem hold))
        · exact hnew.1
      · obtain ⟨method, hmethod, rfl⟩ := List.mem_map.1 hmem
        rcases hmethods a method hmethod with hold | hnew
        · exact hparts _ (List.mem_append_right _ (List.mem_map_of_mem hold))
        · exact hnew
    · obtain ⟨field, hfield, rfl⟩ := List.mem_map.1 htype
      rcases hfields a field hfield with hold | hnew
      · exact htypes _ (List.mem_map_of_mem hold)
      · exact hnew.2
  | _ => exact he

/-- Enumerations have no types, and no parts but their constants. -/
theorem whole_enumeration {e : Enumeration} (hname : e.name.Whole)
    (hconstants : ∀ constant ∈ e.constants, constant.name.Whole) :
    (Entity.enumeration e).Whole := by
  refine Entity.whole_iff.2 ⟨hname, fun name hmem => ?_, by simp [Entity.types]⟩
  obtain ⟨constant, hconstant, rfl⟩ := List.mem_map.1 hmem
  exact hconstants constant hconstant

/-- **A step keeps names whole.** -/
theorem Step.whole (h : Step r s t) (hwhole : ∀ i ∈ s.reached, i.Whole) : t.index.Whole := by
  have hs : s.index.Whole := hwhole _ s.index_mem_reached
  cases h with
  | warn => exact hs
  | breakOff => exact hs
  | resolve type => exact (Resolver.mentions_resolve type s.index).whole hs
  | resolveMember type => exact (Resolver.mentions_resolveMember type s.index).whole hs
  | declare kind known => exact hs.placeholder (whole_name _ _) known
  | adoptName name bound source =>
    exact hs.modify fun e _ he => he.adoptName (source.whole hs)
  | describe =>
    refine hs.modify fun e _ he => whole_mapAggregate he (fun _ => rfl) ?_ ?_
    · exact fun a field hf => .inl hf
    · exact fun a method hm => .inl hm
  | addField description bound member kind resolved =>
    have hspelled := resolved.spelled fun _ _ => Resolver.spelled_resolveMember
    refine hs.modify fun e _ he => whole_mapAggregate he (fun _ => rfl) ?_ ?_
    · intro a field hf
      rcases List.mem_append.1 hf with hf | hf
      · exact .inl hf
      · obtain rfl := List.mem_singleton.1 hf
        exact .inr ⟨whole_name _ _, hspelled.pointees⟩
    · exact fun a method hm => .inl hm
  | addMethod added declared behind agree =>
    refine hs.modify fun e _ he => whole_mapAggregate he (fun _ => rfl) ?_ ?_
    · exact fun a field hf => .inl hf
    · intro a method hm
      rcases List.mem_append.1 hm with hm | hm
      · exact .inl hm
      · obtain rfl := List.mem_singleton.1 hm
        exact .inr ((whole_name _ _).method? agree)
  | @addEnumeration position texts description kind =>
    exact hs.add (whole_enumeration (whole_name _ _) (whole_enumerators r.unit r.prefixes texts _))
  | @fillEnumeration position id e texts description kind bound found empty =>
    refine hs.modify fun f hf hfwhole => ?_
    obtain rfl := Option.some.inj (found.symm.trans hf)
    exact whole_enumeration (Entity.whole_iff.1 hfwhole).1 (whole_enumerators r.unit r.prefixes texts _)
  | addFunction kind function read =>
    exact hs.add (read.allResolved.whole (read.name ▸ whole_name _ _) (read.whole_parameters hwhole))
  | addCallback kind callback named resolved parameters =>
    refine hs.add (resolved.whole (named ▸ whole_name _ _) ?_)
    exact forall_mem_of_forall₂ parameters fun _ _ hp => hp.whole hwhole
  | addConstant value kind =>
    exact hs.add (Entity.whole_iff.2
      ⟨whole_name _ _, by simp [Entity.partNames], by simp [Entity.types]⟩)

/-- What a run from indexes of whole names passes through has whole names. -/
theorem Path.whole (h : Path r s t) (hs : ∀ i ∈ s.reached, i.Whole) : ∀ i ∈ t.reached, i.Whole :=
  h.reached (P := fun _ i => i.Whole) hs (fun _ _ _ _ hi => hi) fun _ _ _ step hu => step.whole hu

end Reader

end HeaderIndex
