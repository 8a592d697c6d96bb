import HeaderIndex.Proofs.Reader.Below
import HeaderIndex.Proofs.Reader.Sorts

/-!
# The name of what is nested in front of a field

What is nested without a name of its own is called after the aggregate around it and the field behind
it.  The aggregate may get its own name later, from a typedef: then it is too late for what is nested
in it.

* `nameUnder` — the name of what stands under a key.
* `Registered` — what may be put under a free key: what is declared has the name of its declaration.
* `NameChange` — what a step does to the names of an index.
* `Step.offer` — where something gets its first words, these are those of one of its declarations, or
  were offered.
* `Path.exists_naming` — the step of a run at which something gets its words.
* `ensures_readMember_named` — what is nested in front of a field has words once this is read.
* `exists_offer` — what is declared without a name was offered the words that it has.
* `NamedOnlyBy` — nothing else has a name for it.
* `read_nestedName` — so it has the words that the aggregate had when the field was read, and behind
  them those of the field.
-/

namespace HeaderIndex.Reader

variable {r : Resolver} {s t : State} {i j : Index} {key : Key} {id : EntityId}

/-! ## The name under a key -/

/-- The name of what stands under a key. -/
def nameUnder (index : Index) (key : Key) : Name :=
  ((index.lookup key).map (nameOf index)).getD .anonymous

theorem nameUnder_of_lookup (h : i.lookup key = some id) : nameUnder i key = nameOf i id := by
  simp [nameUnder, h]

theorem nameUnder_of_free (h : i.lookup key = none) : nameUnder i key = .anonymous := by
  simp [nameUnder, h]

/-- What has words keeps its name. -/
theorem nameUnder_growsTo (h : i.GrowsTo j) (hwords : (nameUnder i key).parts ≠ []) :
    nameUnder j key = nameUnder i key := by
  cases hl : i.lookup key with
  | none =>
    rw [nameUnder_of_free hl] at hwords
    exact absurd rfl hwords
  | some id =>
    rw [nameUnder_of_lookup hl] at hwords ⊢
    rw [nameUnder_of_lookup (h.lookup hl), nameOf_growsTo h hwords]

theorem nameOf_of_entity? {e : Entity} (h : i.entity? id = some e) : nameOf i id = e.name := by
  simp [nameOf, h]

/-- A change that leaves the name of every entity alone. -/
theorem nameOf_modify {f : Entity → Entity} (h : ∀ e, (f e).name = e.name) :
    nameOf (i.modify id f) = nameOf i := by
  funext other
  rw [nameOf, Index.map_entity?_modify h, nameOf]

/-- An offer leaves a name alone or takes its place. -/
theorem nameOf_adoptName_cases (i : Index) (id : EntityId) (name : Name) :
    nameOf (i.adoptName id name) id = nameOf i id ∨ nameOf (i.adoptName id name) id = name := by
  cases he : i.entity? id with
  | none => exact .inl (by simp [nameOf, Index.adoptName, Index.entity?_modify, he])
  | some e =>
    cases hcan : e.canAdoptName with
    | true =>
      rw [nameOf_adoptName he hcan]
      split
      · exact .inr rfl
      · exact .inl rfl
    | false =>
      refine .inl ?_
      have hsame : (e.adoptName name).name = e.name := by cases e <;> first | rfl | cases hcan
      simp [nameOf, Index.adoptName, Index.entity?_modify, he, hsame]

theorem nameUnder_adoptName_of_ne {other : Key} (separate : Separate i)
    (bound : i.lookup other = some id) (hne : key ≠ other) (name : Name) :
    nameUnder (i.adoptName id name) key = nameUnder i key := by
  have hlookup : (i.adoptName id name).lookup key = i.lookup key := rfl
  cases hl : i.lookup key with
  | none => rw [nameUnder_of_free hl, nameUnder_of_free (hlookup.trans hl)]
  | some id' =>
    have hid : id ≠ id' := by
      rintro rfl
      exact hne (separate.injective _ _ _ hl bound)
    rw [nameUnder_of_lookup hl, nameUnder_of_lookup (hlookup.trans hl)]
    simp [nameOf, Index.adoptName, Index.entity?_modify, hid]

theorem nameUnder_add_of_ne {other : Key} (separate : Separate i) (e : Entity) (hne : key ≠ other) :
    nameUnder (i.add other e).2 key = nameUnder i key := by
  have hlookup : (i.add other e).2.lookup key = i.lookup key := by
    rw [Index.lookup_add, if_neg hne, Option.or_none]
  cases hl : i.lookup key with
  | none => rw [nameUnder_of_free hl, nameUnder_of_free (hlookup.trans hl)]
  | some id =>
    rw [nameUnder_of_lookup hl, nameUnder_of_lookup (hlookup.trans hl)]
    simp [nameOf, Index.entity?_add i other e (separate.inside _ _ hl)]

theorem nameUnder_add_self (free : i.lookup key = none) (e : Entity) :
    nameUnder (i.add key e).2 key = e.name := by
  rw [nameUnder_of_lookup (i.lookup_add_self key e),
    nameOf_of_entity? (Index.entity?_add_of_free free e)]

/-! ## What a step does to names -/

/-- The declaration of a structure, union or enumeration at a position has a key: that of its type or,
where a type is declared by it, that of its first declaration. -/
inductive DeclaresTag (unit : ParsedUnit) (position : Nat) : Key → Prop
  | tag (kind : (unit.cursor position).kind.isTag = true) :
      DeclaresTag unit position (unit.typeKey (unit.cursor position).type)
  | record {type : TypeRef} (record : (unit.type type).kind = .record)
      (declared : (unit.type type).declaration = some position)
      (present : (unit.cursor position).kind ≠ .noDeclaration) :
      DeclaresTag unit position (.type (unit.canonicalCursor position))

/-- What may be put under a free key. -/
inductive Registered (r : Resolver) (key : Key) : Entity → Prop
  /-- something for the declaration of a structure, union or enumeration, with its name -/
  | tag {position : Nat} {e : Entity} (declares : DeclaresTag r.unit position key)
      (named : e.name = (r.unit.cursor position).name r.prefixes) : Registered r key e
  /-- a callback, with the name of its typedef -/
  | callback {position : Nat} {c : Callable} (kind : (r.unit.cursor position).kind = .typedefDecl)
      (declared : key = r.unit.typeKey (r.unit.cursor position).type)
      (named : c.name = (r.unit.cursor position).name r.prefixes) : Registered r key (.callable c)
  /-- a function or a constant -/
  | other {e : Entity} (noType : ∀ first, key ≠ .type first) (sort : e.canAdoptName = false) :
      Registered r key e

/-- What stands under the key of a type has the name of a declaration of it. -/
theorem Registered.exists_position {e : Entity} (h : Registered r key e)
    (declares : Resolver.DeclaresTypes r.unit) {first : Nat} (hfirst : key = .type first) :
    ∃ position, r.unit.canonicalCursor position = first ∧
      e.name = (r.unit.cursor position).name r.prefixes := by
  cases h with
  | @tag position e hkey named =>
    refine ⟨position, ?_, named⟩
    cases hkey with
    | tag kind =>
      rw [declares position (.inl kind)] at hfirst
      exact Key.type.inj hfirst
    | record => exact Key.type.inj hfirst
  | @callback position c kind hkey named =>
    rw [hkey, declares position (.inr kind)] at hfirst
    exact ⟨position, Key.type.inj hfirst, named⟩
  | other noType => exact absurd hfirst (noType first)

/-- What a step does to the names of an index. -/
inductive NameChange (r : Resolver) (index : Index) : Index → Prop
  /-- nothing -/
  | nothing {later : Index} (lookup : later.lookup = index.lookup)
      (names : nameOf later = nameOf index) : NameChange r index later
  /-- a name is offered to what is declared with a type -/
  | offer {type : TypeRef} {id : EntityId} {name : Name}
      (bound : index.lookup (r.unit.typeKey type) = some id)
      (source : NamedBy r index type name) : NameChange r index (index.adoptName id name)
  /-- something is put under a free key -/
  | add {key : Key} {e : Entity} (free : index.lookup key = none) (registered : Registered r key e) :
      NameChange r index (index.add key e).2

/-- What is added is put under a free key, or not at all. -/
theorem nameChange_add {e : Entity} (registered : Registered r key e) :
    NameChange r i (i.add key e).2 := by
  cases hl : i.lookup key with
  | none => exact .add hl registered
  | some taken =>
    rw [Index.add_of_taken hl]
    exact .nothing rfl rfl

theorem nameChange_mentions (h : r.Mentions i j) : NameChange r i j := by
  cases h with
  | nothing => exact .nothing rfl rfl
  | placeholder record declared present =>
    exact nameChange_add (.tag (.record record declared present) rfl)

/-- **What a step does to the names of an index.** -/
theorem Step.nameChange (h : Step r s t) : NameChange r s.index t.index := by
  cases h with
  | warn | breakOff => exact .nothing rfl rfl
  | resolve type => exact nameChange_mentions (Resolver.mentions_resolve type s.index)
  | resolveMember type => exact nameChange_mentions (Resolver.mentions_resolveMember type s.index)
  | @declare position id index kind known =>
    have htag := CursorKind.isTag_of_isAggregate kind
    exact Index.of_placeholder known (.nothing rfl rfl) (nameChange_add (.tag (.tag htag) rfl))
  | adoptName name bound source => exact .offer bound source
  | describe | addField | addMethod =>
    refine .nothing rfl (nameOf_modify (Entity.view_mapAggregate ?_))
    exact fun _ => rfl
  | fillEnumeration => exact .nothing rfl (nameOf_modify fun e => by cases e <;> rfl)
  | @addEnumeration position texts description kind =>
    have htag : (r.unit.cursor position).kind.isTag = true := by rw [kind]; rfl
    exact nameChange_add (.tag (.tag htag) rfl)
  | addFunction => exact nameChange_add (.other nofun rfl)
  | addCallback kind callback named resolved => exact nameChange_add (.callback kind rfl named)
  | addConstant => exact nameChange_add (.other nofun rfl)

/-- **Where something gets its first words**, these are those of one of its declarations, or were
offered. -/
theorem Step.offer (declares : Resolver.DeclaresTypes r.unit) (h : Step r s t)
    (separate : Separate s.index) {first : Nat} (hfirst : key = .type first)
    (hs : (nameUnder s.index key).parts = []) (ht : (nameUnder t.index key).parts ≠ []) :
    (∃ position, r.unit.canonicalCursor position = first ∧
      nameUnder t.index key = (r.unit.cursor position).name r.prefixes) ∨
    ∃ type, r.unit.typeKey type = key ∧ NamedBy r s.index type (nameUnder t.index key) := by
  have hchange := h.nameChange
  generalize t.index = j at hchange ht ⊢
  cases hchange with
  | nothing lookup names =>
    have hsame : nameUnder j key = nameUnder s.index key := by
      rw [nameUnder, lookup, names, nameUnder]
    rw [hsame] at ht
    exact absurd hs ht
  | @offer type id name bound source =>
    by_cases hkey : r.unit.typeKey type = key
    · rw [hkey] at bound
      have hlater : (s.index.adoptName id name).lookup key = some id := bound
      rw [nameUnder_of_lookup bound] at hs
      rw [nameUnder_of_lookup hlater] at ht ⊢
      rcases nameOf_adoptName_cases s.index id name with hname | hname
      · rw [hname] at ht
        exact absurd hs ht
      · exact .inr ⟨type, hkey, by rw [hname]; exact source⟩
    · rw [nameUnder_adoptName_of_ne separate bound (Ne.symm hkey)] at ht
      exact absurd hs ht
  | @add other e free registered =>
    by_cases hkey : other = key
    · subst hkey
      obtain ⟨position, hposition, hname⟩ := registered.exists_position declares hfirst
      exact .inl ⟨position, hposition, by rw [nameUnder_add_self free, hname]⟩
    · rw [nameUnder_add_of_ne separate e (Ne.symm hkey)] at ht
      exact absurd hs ht

/-! ## What a run does to names -/

/-- A run at whose end something holds that did not hold before it has a step at which it came to
hold. -/
theorem Path.exists_step {p : State → Prop} (h : Path r s t) (hs : ¬ p s) (ht : p t) :
    ∃ u v, Path r s u ∧ Step r u v ∧ Path r v t ∧ ¬ p u ∧ p v := by
  induction h with
  | refl => exact absurd ht hs
  | @tail u t path step ih =>
    by_cases hu : p u
    · obtain ⟨v, w, hv, hstep, hw, hnot, hp⟩ := ih hu
      exact ⟨v, w, hv, hstep, hw.tail step, hnot, hp⟩
    · exact ⟨u, t, path, step, .refl, hu, ht⟩

/-- What a run reaches was reached when it began, or grew out of the index at that time. -/
theorem Path.reached_cases (h : Path r s t) :
    ∀ i ∈ t.reached, i ∈ s.reached ∨ s.index.GrowsTo i := by
  refine h.reached (P := fun _ i => i ∈ s.reached ∨ s.index.GrowsTo i) (fun i hi => .inl hi)
    (fun _ _ _ _ hi => hi) fun u v path step _ => .inr ?_
  exact (Path.growsTo path).trans step.growsTo

/-- **The step of a run at which something gets its words**, after the last index in which it has
none. -/
theorem Path.exists_naming (h : Path r s t)
    (hgrows : s.reached.Pairwise fun later earlier => earlier.GrowsTo later)
    (hs : (nameUnder s.index key).parts = []) (ht : (nameUnder t.index key).parts ≠ []) :
    ∃ u v, Path r s u ∧ Step r u v ∧ (nameUnder u.index key).parts = [] ∧
      nameUnder v.index key = nameUnder t.index key ∧ u.index ∈ t.reached ∧ u.index.GrowsTo t.index ∧
      ∀ i ∈ t.reached, (nameUnder i key).parts = [] → i.GrowsTo u.index := by
  obtain ⟨u, v, hu, step, hv, hnone, hwords⟩ :=
    h.exists_step (p := fun s => (nameUnder s.index key).parts ≠ []) (fun hn => hn hs) ht
  have hrest : Path r u t := hv.head step
  refine ⟨u, v, hu, step, not_not.1 hnone, (nameUnder_growsTo hv.growsTo hwords).symm,
    hrest.mem_reached u.index_mem_reached, hrest.growsTo, fun i hi hempty => ?_⟩
  rcases hv.reached_cases i hi with hi | hi
  · have hnot : i ≠ v.index := by
      rintro rfl
      exact hwords hempty
    have hi : i ∈ u.reached := by
      rcases step.reached with he | he
      · rwa [he] at hi
      · rw [he] at hi
        exact (List.mem_cons.1 hi).resolve_left hnot
    -- reached up to the step, so it is the index there or an earlier one
    rcases List.mem_cons.1 hi with rfl | hi
    · exact .refl _
    · exact (List.pairwise_cons.1 (hu.pairwise hgrows)).1 i hi
  · -- what grew out of the index after the step has the words
    rw [nameUnder_growsTo hi hwords] at hempty
    exact absurd hempty hwords

/-! ## What is nested gets words -/

/-- What stands under a key can take a name. -/
def TakesName (index : Index) (key : Key) : Prop :=
  ∃ id e, index.get? key = some id ∧ index.entity? id = some e ∧ e.canAdoptName = true

/-- What is declared with a tag takes a name. -/
theorem canAdoptName_of_isDeclaredBy {kind : CursorKind} {e : Entity} (h : e.IsDeclaredBy kind)
    (htag : kind.isTag = true) : e.canAdoptName = true := by
  cases e with
  | aggregate | enumeration => rfl
  | callable c => rw [h.1] at htag; cases htag
  | constant c => cases h

theorem takesName_of_bound (coherent : Coherent r.unit) {inner : Nat}
    (htag : (r.unit.cursor inner).kind.isTag = true) (hbound : Bound r inner s)
    (hsorted : s.index.Sorted r.unit) :
    TakesName s.index (r.unit.typeKey (r.unit.cursor inner).type) := by
  obtain ⟨id, hl⟩ := hbound
  rw [coherent.declared inner (.inl htag)] at hl ⊢
  obtain ⟨e, he, hsort⟩ := hsorted _ id hl
  rw [coherent.kinds inner] at hsort
  exact ⟨id, e, by simpa [Index.get?] using hl, he, canAdoptName_of_isDeclaredBy hsort htag⟩

/-- What takes a name has words once it was offered some. -/
theorem ensures_donateName {type : TypeRef} {name : Name} (hname : name.parts ≠ []) :
    Ensures (fun s => TakesName s.index (r.unit.typeKey type)) (donateName r type name)
      (fun _ s => (nameUnder s.index (r.unit.typeKey type)).parts ≠ []) fun _ _ => True := by
  refine Ensures.bind Ensures.index fun index => ?_
  split
  · rename_i id hid
    refine Ensures.update fun s hs => ?_
    obtain ⟨rfl, id', e, hget, he, hcan⟩ := hs
    obtain rfl := Option.some.inj (hid.symm.trans hget)
    have hl : (s.index.adoptName id name).lookup (r.unit.typeKey type) = some id :=
      (Index.lookup_of_get? hid).1
    rw [State.index_goTo, nameUnder_of_lookup hl, nameOf_adoptName he hcan]
    split
    · exact hname
    · rename_i hfull
      simpa [Name.isEmpty] using hfull
  · rename_i hnone
    refine Ensures.pure fun s hs => ?_
    obtain ⟨rfl, id', e, hget, _⟩ := hs
    rw [hnone] at hget
    cases hget

/-- A part of an aggregate in which something is nested in front of a field has given it words. -/
def NamesNested (r : Resolver) (inner child : Nat) (member : Member) (s : State) : Prop :=
  ∀ description, member = .field (some inner) child description →
    (nameUnder s.index (r.unit.typeKey (r.unit.cursor inner).type)).parts ≠ []

theorem stable_namesNested (inner child : Nat) (member : Member) :
    Stable r (NamesNested r inner child member) := by
  intro s t step h description hm
  rw [nameUnder_growsTo step.growsTo (h description hm)]
  exact h description hm

/-- **What is nested in front of a field has words** once this has been read. -/
theorem ensures_readMember_named (coherent : Coherent r.unit) {inner child : Nat}
    (htag : (r.unit.cursor inner).kind.isTag = true)
    (hname : ((r.unit.cursor child).name r.prefixes).parts ≠ []) {position levels : Nat}
    {member : Member} (hm : member ∈ members r.unit (r.unit.cursor position)) :
    Ensures (fun s => s.index.Sorted r.unit ∧ Declares r position id s)
      (readMember r (readTagWithin r levels · []) id member)
      (fun _ => NamesNested r inner child member) fun _ _ => True := by
  by_cases hmember : ∃ description, member = .field (some inner) child description
  · obtain ⟨description, rfl⟩ := hmember
    have hstable := stable_namesNested (r := r) inner child (.field (some inner) child description)
    have hread : Runs r (fun s => s.index.Sorted r.unit ∧ Declares r position id s)
        (readTagWithin r levels inner []) fun _ s =>
          TakesName s.index (r.unit.typeKey (r.unit.cursor inner).type) ∧
            Declares r position id s :=
      ((bound_readTagWithin levels [] htag).frame fun s t step hs =>
        ⟨step.sorted coherent hs.1, stable_declares position id s t step hs.2⟩).weaken
        (fun s hs => ⟨trivial, hs⟩)
        fun _ s hs => ⟨takesName_of_bound coherent htag hs.1 hs.2.1, hs.2.2⟩
    refine Ensures.bind (.of_runs hread) fun _ => Ensures.bind Ensures.index fun index => ?_
    have hparts : (nameOf index id ++ (r.unit.cursor child).name r.prefixes).parts ≠ [] :=
      fun hnil => hname (List.append_eq_nil_iff.1 hnil).2
    refine Ensures.bind (((ensures_donateName hparts).weaken (fun _ hs => hs.2.1)
      fun _ _ hs => hs).and (.of_runs (((runs_donateNested hm index).frame
        (stable_declares position id)).weaken (fun s hs => ⟨⟨hs.1, hs.2.2⟩, hs.2.2⟩)
        fun _ _ hs => hs.2))) fun _ => ?_
    refine (Ensures.of_runs ((runs_addField hm).frame hstable)).weaken
      (fun s hs => ⟨hs.2, fun _ _ => hs.1⟩) fun _ _ hs => hs.2
  · exact fun s _ => ⟨fun _ _ description hd => absurd ⟨description, hd⟩ hmember, fun _ _ => trivial⟩

/-! ## Nested declarations in front of fields -/

theorem isField_eq_false_of_isTag {unit : ParsedUnit} {position : Nat}
    (htag : (unit.cursor position).kind.isTag = true) : isField unit position = false := by
  simp only [isField, decide_eq_false_iff_not]
  intro hk
  rw [hk] at htag
  cases htag

/-- A declaration right in front of a field is nested in front of it. -/
theorem mem_membersFrom_of_adjacent {unit : ParsedUnit} {inner child : Nat} {after : List Nat}
    (hinner : isField unit inner = false) (hchild : isField unit child = true)
    (stop previous : Location) (children : List Nat) :
    ∀ before, children = before ++ inner :: child :: after → ∃ description,
      .field (some inner) child description ∈ membersFrom unit stop previous children := by
  fun_induction membersFrom unit stop previous children with
  | case1 => simp
  | case2 previous first rest hf description next hc ih =>
    rintro (_ | ⟨_, before⟩) heq
    · obtain ⟨rfl, _⟩ := List.cons.inj heq
      rw [hf] at hinner
      cases hinner
    · obtain ⟨description, hmem⟩ := ih before (List.cons.inj heq).2
      exact ⟨description, List.mem_cons_of_mem _ hmem⟩
  | case3 => rintro (_ | ⟨_, before⟩) heq <;> simp at heq
  | case4 previous first hf field more hfield description next hc ih =>
    rintro (_ | ⟨_, _ | ⟨_, before⟩⟩) heq
    · obtain ⟨rfl, hmore⟩ := List.cons.inj heq
      obtain ⟨rfl, _⟩ := List.cons.inj hmore
      exact ⟨description, List.mem_cons_self⟩
    · -- the field would be the nested declaration
      obtain ⟨rfl, _⟩ := List.cons.inj (List.cons.inj heq).2
      rw [hfield] at hinner
      cases hinner
    · obtain ⟨description, hmem⟩ := ih before (List.cons.inj (List.cons.inj heq).2).2
      exact ⟨description, List.mem_cons_of_mem _ hmem⟩
  | case5 previous first hf field more hfield ih =>
    rintro (_ | ⟨_, before⟩) heq
    · obtain ⟨rfl, _⟩ := List.cons.inj (List.cons.inj heq).2
      exact absurd hchild hfield
    · obtain ⟨description, hmem⟩ := ih before (List.cons.inj heq).2
      exact ⟨description, List.mem_cons_of_mem _ hmem⟩

/-- Nothing has a name for what is declared at `inner` but the field at `child`, in the aggregate at
`position`. -/
structure NamedOnlyBy (unit : ParsedUnit) (prefixes : List String) (position inner child : Nat) :
    Prop where
  /-- it is declared without a name -/
  anonymous : ∀ q, unit.canonicalCursor q = unit.canonicalCursor inner →
    ((unit.cursor q).name prefixes).parts = []
  /-- no typedef is around it -/
  typedefs : ∀ q around, (unit.cursor q).kind = .typedefDecl → (unit.cursor q).children = [around] →
    unit.typeKey (unit.cursor around).type = unit.typeKey (unit.cursor inner).type →
    ((unit.cursor q).name prefixes).parts = []
  /-- no other field is behind it -/
  fields : ∀ q other field description, .field (some other) field description ∈
    members unit (unit.cursor q) →
    unit.typeKey (unit.cursor other).type = unit.typeKey (unit.cursor inner).type →
    q = position ∧ field = child

/-- What is not in the table has no name. -/
theorem anonymous_of_rows {unit : ParsedUnit} {prefixes : List String} {inner : Nat}
    (h : ∀ q < unit.cursors.size, unit.canonicalCursor q = unit.canonicalCursor inner →
      ((unit.cursor q).name prefixes).parts = []) (q : Nat)
    (hq : unit.canonicalCursor q = unit.canonicalCursor inner) :
    ((unit.cursor q).name prefixes).parts = [] := by
  rcases Nat.lt_or_ge q unit.cursors.size with hlt | hge
  · exact h q hlt hq
  · rw [ParsedUnit.cursor_of_size_le hge]
    rfl

/-- What is not in the table is around nothing. -/
theorem typedefs_of_rows {unit : ParsedUnit} {prefixes : List String} {inner : Nat}
    (h : ∀ q < unit.cursors.size, (unit.cursor q).kind = .typedefDecl →
      ∀ around ∈ (unit.cursor q).children,
        unit.typeKey (unit.cursor around).type = unit.typeKey (unit.cursor inner).type →
        ((unit.cursor q).name prefixes).parts = []) (q around : Nat)
    (hkind : (unit.cursor q).kind = .typedefDecl) (haround : (unit.cursor q).children = [around])
    (hkey : unit.typeKey (unit.cursor around).type = unit.typeKey (unit.cursor inner).type) :
    ((unit.cursor q).name prefixes).parts = [] := by
  rcases Nat.lt_or_ge q unit.cursors.size with hlt | hge
  · exact h q hlt hkind around (by simp [haround]) hkey
  · rw [ParsedUnit.cursor_of_size_le hge] at hkind
    cases hkind

/-- The promise is about the rows of the table: what is not in it has neither a name nor members. -/
theorem NamedOnlyBy.of_rows {unit : ParsedUnit} {prefixes : List String} {position inner child : Nat}
    (anonymous : ∀ q < unit.cursors.size, unit.canonicalCursor q = unit.canonicalCursor inner →
      ((unit.cursor q).name prefixes).parts = [])
    (typedefs : ∀ q < unit.cursors.size, (unit.cursor q).kind = .typedefDecl →
      ∀ around ∈ (unit.cursor q).children,
        unit.typeKey (unit.cursor around).type = unit.typeKey (unit.cursor inner).type →
        ((unit.cursor q).name prefixes).parts = [])
    (fields : ∀ q < unit.cursors.size, ∀ other field description,
      .field (some other) field description ∈ members unit (unit.cursor q) →
      unit.typeKey (unit.cursor other).type = unit.typeKey (unit.cursor inner).type →
      q = position ∧ field = child) :
    NamedOnlyBy unit prefixes position inner child where
  anonymous := anonymous_of_rows anonymous
  typedefs := typedefs_of_rows typedefs
  fields q other field description hm hkey := by
    rcases Nat.lt_or_ge q unit.cursors.size with hlt | hge
    · exact fields q hlt other field description hm hkey
    · rw [ParsedUnit.cursor_of_size_le hge] at hm
      cases hm

/-- The words of the name of what is declared at a position. -/
def wordsAt (unit : ParsedUnit) (index : Index) (position : Nat) : List String :=
  (nameUnder index (unit.typeKey (unit.cursor position).type)).parts

theorem wordsAt_growsTo {unit : ParsedUnit} {position : Nat} (h : i.GrowsTo j)
    (hwords : wordsAt unit i position ≠ []) : wordsAt unit j position = wordsAt unit i position := by
  rw [wordsAt, nameUnder_growsTo h hwords, wordsAt]

/-- **What is named only by a field is offered the words of this field**, behind those that the
aggregate has then. -/
theorem NamedOnlyBy.offer {position inner child : Nat} {type : TypeRef} {name : Name}
    (only : NamedOnlyBy r.unit r.prefixes position inner child)
    (declares : Resolver.DeclaresTypes r.unit) (htag : (r.unit.cursor inner).kind.isTag = true)
    (htype : r.unit.typeKey type = r.unit.typeKey (r.unit.cursor inner).type)
    (hwords : name.parts ≠ []) (h : NamedBy r i type name) :
    name.parts = wordsAt r.unit i position ++ ((r.unit.cursor child).name r.prefixes).parts ∧
      (((r.unit.cursor position).name r.prefixes).parts ≠ [] → wordsAt r.unit i position ≠ []) := by
  cases h with
  | @declaration q kind =>
    rw [declares q (.inl kind), declares inner (.inl htag)] at htype
    exact absurd (only.anonymous q (Key.type.inj htype)) hwords
  | @typedef q around kind haround =>
    exact absurd (only.typedefs q around kind haround htype) hwords
  | @field q other field description id behind bound named =>
    obtain ⟨rfl, rfl⟩ := only.fields q other field description behind htype
    have hwords : wordsAt r.unit i q = (nameOf i id).parts := by
      rw [wordsAt, nameUnder_of_lookup bound]
    rw [hwords]
    exact ⟨rfl, named⟩

/-- **What is declared without a name was offered the words that it has**, right after the last index in
which it had none. -/
theorem exists_offer {inner : Nat} (declares : Resolver.DeclaresTypes r.unit)
    (htag : (r.unit.cursor inner).kind.isTag = true)
    (anonymous : ∀ q, r.unit.canonicalCursor q = r.unit.canonicalCursor inner →
      ((r.unit.cursor q).name r.prefixes).parts = [])
    (path : Path r .initial t) (hwords : wordsAt r.unit t.index inner ≠ []) :
    ∃ last ∈ t.reached, last.GrowsTo t.index ∧ wordsAt r.unit last inner = [] ∧
      (∀ i ∈ t.reached, wordsAt r.unit i inner = [] → i.GrowsTo last) ∧
      ∃ type name, r.unit.typeKey type = r.unit.typeKey (r.unit.cursor inner).type ∧
        NamedBy r last type name ∧ wordsAt r.unit t.index inner = name.parts := by
  obtain ⟨u, v, hu, step, hnone, hv, hreached, hgrows, hlast⟩ :=
    path.exists_naming (List.pairwise_singleton ..) rfl hwords
  rw [wordsAt, ← hv] at hwords
  refine ⟨u.index, hreached, hgrows, hnone, hlast, ?_⟩
  rw [wordsAt, ← hv]
  rcases step.offer declares (stable_separate.path hu separate_empty)
    (declares inner (.inl htag)) hnone hwords with ⟨q, hq, hdeclared⟩ | ⟨type, htype, source⟩
  · rw [hdeclared] at hwords
    exact absurd (anonymous q hq) hwords
  · exact ⟨type, _, htype, source, rfl⟩

/-- **What is named only by a field gets its words when this field is read**: those that the aggregate
has in the last index in which it has none itself, and behind them those of the field. -/
theorem NamedOnlyBy.exists_last {position inner child : Nat}
    (only : NamedOnlyBy r.unit r.prefixes position inner child)
    (declares : Resolver.DeclaresTypes r.unit) (htag : (r.unit.cursor inner).kind.isTag = true)
    (path : Path r .initial t) (hwords : wordsAt r.unit t.index inner ≠ []) :
    ∃ last ∈ t.reached, last.GrowsTo t.index ∧ wordsAt r.unit last inner = [] ∧
      (∀ i ∈ t.reached, wordsAt r.unit i inner = [] → i.GrowsTo last) ∧
      wordsAt r.unit t.index inner =
        wordsAt r.unit last position ++ ((r.unit.cursor child).name r.prefixes).parts ∧
      (((r.unit.cursor position).name r.prefixes).parts ≠ [] →
        wordsAt r.unit last position ≠ []) := by
  obtain ⟨last, hreached, hgrows, hnone, hlast, type, name, htype, source, heq⟩ :=
    exists_offer declares htag only.anonymous path hwords
  refine ⟨last, hreached, hgrows, hnone, hlast, ?_⟩
  rw [heq] at hwords ⊢
  exact only.offer declares htag htype hwords source

/-- What is nested in front of a field in a definition has words after a reading that ends well. -/
theorem words_of_nested (coherent : Coherent r.unit) {config : Config} (hr : r.prefixes = config.prefixes)
    (hok : (readUnit config r.unit r.visible .initial).1 = .ok ()) {position inner child : Nat}
    {before after : List Nat} (hdefinition : position ∈ definitions r.unit r.visible)
    (hmembers : memberCursors r.unit position = before ++ inner :: child :: after)
    (htag : (r.unit.cursor inner).kind.isTag = true) (hfield : isField r.unit child = true)
    (hname : ((r.unit.cursor child).name r.prefixes).parts ≠ []) :
    wordsAt r.unit (readUnit config r.unit r.visible .initial).2.index inner ≠ [] := by
  obtain ⟨description, hmember⟩ := mem_membersFrom_of_adjacent (isField_eq_false_of_isTag htag) hfield
    (r.unit.cursor position).stop (r.unit.cursor position).location _ before hmembers
  have hnamed := (ensures_readUnit_below (I := fun s => s.index.Sorted r.unit)
    (D := fun _ => NamesNested r inner child) (fun s t step hs => step.sorted coherent hs)
    (fun _ => stable_namesNested inner child)
    (fun _ _ _ _ hm => ensures_readMember_named coherent htag hname hm) config hr
    .initial Index.sorted_empty).1 () hok
  exact hnamed position hdefinition _ hmember description rfl

/-- **What is nested is called after the aggregate as it is called by then.**  Let nothing but the
field behind it name what is nested without a name in a definition.  After a reading that ends well it
has the words that the aggregate had in the last index in which it was itself without words, and
behind them those of the field.  Hence, if the aggregate ends up with a name, what is nested has the
words of this name and those of the field exactly if the aggregate had this name by then, as it had if
it is declared with a name; and it has only the words of the field if the aggregate got its name later. -/
theorem read_nestedName {config : Config} {unit : ParsedUnit} {visible : List String} {index : Index}
    (hread : (read config unit visible).result = .ok index) (coherent : Coherent unit)
    {position inner child : Nat} {before after : List Nat}
    (hdefinition : position ∈ definitions unit visible)
    (hmembers : memberCursors unit position = before ++ inner :: child :: after)
    (htag : (unit.cursor inner).kind.isTag = true) (hfield : isField unit child = true)
    (only : NamedOnlyBy unit config.prefixes position inner child)
    (hname : ((unit.cursor child).name config.prefixes).parts ≠ [])
    (howner : wordsAt unit index position ≠ []) :
    ∃ last ∈ (readUnit config unit visible .initial).2.reached,
      wordsAt unit last inner = [] ∧
        (∀ i ∈ (readUnit config unit visible .initial).2.reached,
          wordsAt unit i inner = [] → i.GrowsTo last) ∧
        wordsAt unit index inner =
          wordsAt unit last position ++ ((unit.cursor child).name config.prefixes).parts ∧
        (wordsAt unit index inner =
            wordsAt unit index position ++ ((unit.cursor child).name config.prefixes).parts ↔
          wordsAt unit last position ≠ []) ∧
        (((unit.cursor position).name config.prefixes).parts ≠ [] →
          wordsAt unit last position ≠ []) := by
  obtain ⟨hok, rfl⟩ := readUnit_of_result_ok hread
  have hwords := words_of_nested (r := ⟨unit, config.prefixes, visible⟩) coherent rfl hok hdefinition
    hmembers htag hfield hname
  obtain ⟨last, hreached, hgrows, hnone, hlast, hinner, hown⟩ :=
    only.exists_last (r := ⟨unit, config.prefixes, visible⟩) coherent.declared htag
      (readUnit_path config unit visible .initial) hwords
  refine ⟨last, hreached, hnone, hlast, hinner, ⟨fun heq hlate => ?_, fun hearly => ?_⟩, hown⟩
  · -- the words of the aggregate would be missing
    rw [hinner, hlate] at heq
    exact howner (List.append_cancel_right heq).symm
  · rw [hinner, wordsAt_growsTo hgrows hearly]

/-- The structure in `struct a { …; struct { int x; } in; int y; };` is called after both. -/
theorem read_nestedName_linkedPair :
    let config : Config :=
      ⟨Settings.minimal "pair" [.path "pair.h"], by decide, by simp [Settings.minimal]⟩
    let index := (readUnit config linkedPair ["pair.h"] .initial).2.index
    (read config linkedPair ["pair.h"]).result = .ok index ∧ Coherent linkedPair ∧
      1 ∈ definitions linkedPair ["pair.h"] ∧ memberCursors linkedPair 1 = [2] ++ 3 :: 5 :: [6] ∧
      NamedOnlyBy linkedPair config.prefixes 1 3 5 ∧ wordsAt linkedPair index 1 = ["a"] ∧
      wordsAt linkedPair index 3 = ["a", "in"] ∧
      ∃ last ∈ (readUnit config linkedPair ["pair.h"] .initial).2.reached,
        wordsAt linkedPair last 3 = [] ∧ wordsAt linkedPair last 1 ≠ [] := by
  intro config index
  have hread : (read config linkedPair ["pair.h"]).result = .ok index := by decide +kernel
  have coherent : Coherent linkedPair := Coherent.of_rows (by decide) (by decide) (by decide)
  have hdefinition : 1 ∈ definitions linkedPair ["pair.h"] := ⟨by decide, [1], .top rfl⟩
  have hrows : ∀ q < 9, members linkedPair (linkedPair.cursor q) =
      if q = 1 then [.field none 2 [], .field (some 3) 5 [], .field none 6 []]
      else if q = 3 then [.field none 4 []] else if q = 7 then [.field none 8 []] else [] := by decide
  have only : NamedOnlyBy linkedPair config.prefixes 1 3 5 := by
    refine .of_rows (by decide +kernel) (by decide) fun q hq other field description hm hkey => ?_
    rw [hrows q hq] at hm
    split at hm
    · simp_all
    · split at hm <;> simp at hm
  have howner : wordsAt linkedPair index 1 = ["a"] := by decide +kernel
  have hmembers : memberCursors linkedPair 1 = [2] ++ 3 :: 5 :: [6] := by decide
  obtain ⟨last, hlast, hnone, _, _, _, hown⟩ := read_nestedName hread coherent hdefinition hmembers
    (by decide) (by decide) only (by decide +kernel) (by rw [howner]; decide)
  exact ⟨hread, coherent, hdefinition, hmembers, only, howner, by decide +kernel, last, hlast, hnone,
    hown (by decide +kernel)⟩

/-- `typedef struct { struct { int x; } in; } T;` -/
def lateOwner : ParsedUnit where
  files := #["test.h"]
  tokens := #[[]]
  cursors := #[
    { Cursor.missing with
      kind := .structDecl, location := ⟨some 0, 8, 1⟩, start := ⟨some 0, 8, 1⟩
      stop := ⟨some 0, 40, 1⟩, type := some 0, children := [1, 3], isDefinition := true
      isAnonymous := true },
    { Cursor.missing with
      kind := .structDecl, location := ⟨some 0, 17, 1⟩, start := ⟨some 0, 17, 1⟩
      stop := ⟨some 0, 34, 1⟩, type := some 1, children := [2], isDefinition := true
      isAnonymous := true },
    { Cursor.missing with
      kind := .fieldDecl, spelling := "x", location := ⟨some 0, 30, 1⟩, start := ⟨some 0, 26, 1⟩
      stop := ⟨some 0, 31, 1⟩, type := some 2 },
    { Cursor.missing with
      kind := .fieldDecl, spelling := "in", location := ⟨some 0, 35, 1⟩, start := ⟨some 0, 17, 1⟩
      stop := ⟨some 0, 37, 1⟩, type := some 1 },
    { Cursor.missing with
      kind := .typedefDecl, spelling := "T", location := ⟨some 0, 41, 1⟩, start := ⟨some 0, 0, 1⟩
      stop := ⟨some 0, 42, 1⟩, type := some 3, underlying := some 0, children := [0] }]
  types := #[
    { SourceType.missing with kind := .record, spelling := "T", declaration := some 0 },
    { SourceType.missing with
      kind := .record, spelling := "struct (anonymous)", declaration := some 1 },
    { SourceType.missing with kind := .int, spelling := "int" },
    { SourceType.missing with
      kind := .typedef, spelling := "T", declaration := some 4, canonical := some 0 }]
  top := [0, 4]
  includes := []
  diagnostics := []

/-- What is nested in a structure that gets its name from a typedef is called after the field alone. -/
theorem nestedName_without_owner :
    let config : Config :=
      ⟨Settings.minimal "test" [.path "test.h"], by decide, by simp [Settings.minimal]⟩
    let index := (readUnit config lateOwner ["test.h"] .initial).2.index
    (read config lateOwner ["test.h"]).result = .ok index ∧ Coherent lateOwner ∧
      0 ∈ definitions lateOwner ["test.h"] ∧ memberCursors lateOwner 0 = [1, 3] ∧
      NamedOnlyBy lateOwner config.prefixes 0 1 3 ∧
      ((lateOwner.cursor 3).name config.prefixes).parts = ["in"] ∧
      wordsAt lateOwner index 0 = ["t"] ∧ wordsAt lateOwner index 1 = ["in"] := by
  intro config index
  have hrows : ∀ q < 5, members lateOwner (lateOwner.cursor q) =
      if q = 0 then [.field (some 1) 3 []] else if q = 1 then [.field none 2 []]
      else if q = 4 then [.nested 0] else [] := by decide
  have only : NamedOnlyBy lateOwner config.prefixes 0 1 3 := by
    refine .of_rows (by decide +kernel) (by decide) fun q hq other field description hm hkey => ?_
    rw [hrows q hq] at hm
    split at hm
    · simp_all
    · split at hm <;> simp at hm
  exact ⟨by decide +kernel, Coherent.of_rows (by decide) (by decide) (by decide),
    ⟨by decide, [0], .top rfl⟩, by decide, only, by decide +kernel, by decide +kernel,
    by decide +kernel⟩

end HeaderIndex.Reader
