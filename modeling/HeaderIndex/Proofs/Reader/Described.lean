import HeaderIndex.Proofs.Reader.Below
import HeaderIndex.Proofs.Reader.FieldComments

/-!
# The descriptions of fields

Reading a definition gives its aggregate the fields of the definition, in order and with their
comments.

* `HasFields` — an aggregate has given fields among its own, in order.
* `ensures_readMember_described` — each part that is a field adds it.
* `NamesAt` — the fields under a key have given names; `ensures_readTagWithin_names` — reading
  declarations with other keys does not change them.
* `readTagWithin_describes` — so the fields of a definition are described by the comments behind them,
  or else by those in the gaps in front of them, and no comment describes two.
-/

namespace HeaderIndex.Reader

variable {r : Resolver} {position : Nat} {id : EntityId} {key : Key} {names : List Name}

/-! ## Fields with descriptions -/

/-- What a field is called and how it is described. -/
abbrev Shown := Name × List String

/-- What is shown of a field. -/
def shownOf (field : Field) : Shown := (field.name, field.description)

/-- What is shown of the field that a cursor with a description declares. -/
def shownAs (r : Resolver) (d : Nat × List String) : Shown :=
  ((r.unit.cursor d.1).name r.prefixes, d.2)

/-- The aggregate at a position has given fields among its own, in order. -/
def HasFields (id : EntityId) (shown : List Shown) (s : State) : Prop :=
  ∃ a, s.index.entity? id = some (.aggregate a) ∧ shown.Sublist (a.fields.map shownOf)

theorem stable_hasFields (id : EntityId) (shown : List Shown) : Stable r (HasFields id shown) := by
  rintro s t step ⟨a, ha, hshown⟩
  obtain ⟨e, he, hgrows⟩ := step.growsTo.entities id _ ha
  obtain ⟨a', rfl, hgrown, _⟩ := hgrows.aggregate
  exact ⟨a', he, hshown.trans (hgrown.map shownOf).sublist⟩

theorem stable_declared (position : Nat) (id : EntityId) (shown : List Shown) :
    Stable r fun s => Declares r position id s ∧ HasFields id shown s :=
  fun s t step hs => ⟨stable_declares position id s t step hs.1,
    stable_hasFields id shown s t step hs.2⟩

/-- A field is behind all those that the aggregate had. -/
theorem ensures_addField (child : Nat) (description : List String) (shown : List Shown) :
    Ensures (HasFields id shown)
      (do
        let type ← Action.resolve (r.resolveMember (r.unit.cursor child).type)
        Action.update fun index => index.modify id (Entity.mapAggregate fun a =>
          { a with fields := a.fields ++
            [⟨(r.unit.cursor child).name r.prefixes, type, description⟩] }))
      (fun _ => HasFields id (shown ++ [shownAs r (child, description)])) fun _ _ => True := by
  refine Ensures.bind (Q := fun _ => HasFields id shown) (.of_runs
    ((runs_resolveMember (stable_hasFields id shown) _).weaken (fun _ hs => hs) fun _ _ hs => hs.2))
    fun type => Ensures.update ?_
  rintro s ⟨a, ha, hshown⟩
  refine ⟨_, by rw [State.index_goTo, Index.entity?_modify, if_pos rfl, ha]; rfl, ?_⟩
  rw [List.map_append]
  exact hshown.append (.refl _)

/-- **A part of a definition** that is a field adds it; what is nested adds nothing here. -/
theorem ensures_readMember_described {read : Nat → Action Unit} {member : Member}
    (hm : member ∈ members r.unit (r.unit.cursor position))
    (hruns : ∀ inner, (r.unit.cursor inner).kind.isTag = true →
      Runs r (fun _ => True) (read inner) fun _ _ => True) (shown : List Shown) :
    Ensures (fun s => Declares r position id s ∧ HasFields id shown s) (readMember r read id member)
      (fun _ s => Declares r position id s ∧
        HasFields id (shown ++ (member.described?.map (shownAs r)).toList) s) fun _ _ => True := by
  have hdeclares : Ensures (fun s => Declares r position id s ∧ HasFields id shown s)
      (readMember r read id member) (fun _ => Declares r position id) fun _ _ => True :=
    (Ensures.of_runs (runs_readMember hm hruns)).weaken (fun _ hs => hs.1) fun _ _ hs => hs
  refine hdeclares.and ?_
  have hstable := stable_declared (r := r) position id shown
  cases member with
  | nested inner =>
    have hread := (hruns inner (isTag_of_mem_members hm (.inl rfl))).keeping hstable
    refine (Ensures.of_runs hread).weaken (fun _ hs => hs) fun _ s hs => ?_
    rw [show (Member.nested inner).described? = none from rfl, Option.map_none, Option.toList_none,
      List.append_nil]
    exact hs.2
  | field nested child description =>
    cases nested with
    | none =>
      exact (ensures_addField child description shown).weaken (fun _ hs => hs.2) fun _ _ hs => hs
    | some inner =>
      have htag := isTag_of_mem_members hm (.inr ⟨child, description, rfl⟩)
      refine Ensures.bind (.of_runs ((hruns inner htag).keeping hstable)) fun _ => ?_
      refine Ensures.bind Ensures.index fun index => ?_
      refine Ensures.bind (.of_runs (((runs_donateNested hm index).frame hstable).weaken
        (fun s hs => ⟨⟨hs.1, hs.2.1⟩, hs.2⟩) fun _ _ hs => hs.2.2)) fun _ => ?_
      exact ensures_addField child description shown

/-! ## The names under a key -/

/-- The names of the fields under a key, in an index whose keys lead to different entities. -/
structure NamesAt (key : Key) (names : List Name) (s : State) : Prop where
  separate : Separate s.index
  names : fieldNames s.index key = names

theorem Ensures.of_plain_namesAt {α : Type} {P P' : State → Prop} {action : Action α}
    (h : Plain action) (hr : Runs r P action fun _ _ => True)
    (hpre : ∀ s, P' s → P s ∧ NamesAt key names s) :
    Ensures P' action (fun _ => NamesAt key names) fun _ _ => True :=
  (Ensures.of_plain (p := NamesAt key names) h hr (fun _ _ hpath hfields hs =>
    ⟨stable_separate.path hpath hs.separate, by rw [hfields, hs.names]⟩)
      fun _ _ _ => trivial).weaken hpre fun _ _ hs => hs

/-- The names that a declaration gives to the fields under a key. -/
def namesFor (r : Resolver) (key : Key) (position : Nat) (cursors : List Nat) : List Name :=
  if keyOf r position = key then fieldNamesIn r cursors else []

/-- An aggregate is declared, and the fields under some key have given names. -/
structure Collects (r : Resolver) (key : Key) (position : Nat) (id : EntityId) (names : List Name)
    (s : State) : Prop where
  declares : Declares r position id s
  known : HasFields id [] s
  namesAt : NamesAt key names s

/-- The names under a key, together with the aggregate that is declared meanwhile. -/
theorem Ensures.collects {α : Type} {P Q : State → Prop} {action : Action α}
    (h : Ensures P action (fun _ => NamesAt key names) fun _ _ => True)
    (hr : Runs r Q action fun _ s => Declares r position id s ∧ HasFields id [] s)
    (hpq : ∀ s, P s → Q s) :
    Ensures P action (fun _ => Collects r key position id names) fun _ _ => True :=
  (((Ensures.of_runs hr).weaken hpq fun _ _ hs => hs).and h).weaken (fun _ hs => hs)
    fun _ _ hs => ⟨hs.1.1, hs.1.2, hs.2⟩

theorem Collects.declared {s : State} (h : Collects r key position id names s) :
    Declares r position id s ∧ HasFields id [] s := ⟨h.declares, h.known⟩

/-- A field has its name under the key of the definition and under no other. -/
theorem ensures_addField_names {child : Nat} (hfield : isField r.unit child = true)
    (description : List String) :
    Ensures (Collects r key position id names)
      (do
        let type ← Action.resolve (r.resolveMember (r.unit.cursor child).type)
        Action.update fun index => index.modify id (Entity.mapAggregate fun a =>
          { a with fields := a.fields ++
            [⟨(r.unit.cursor child).name r.prefixes, type, description⟩] }))
      (fun _ => NamesAt key (names ++ namesFor r key position [child])) fun _ _ => True := by
  have hresolve : Runs r (fun _ => True)
      (Action.resolve (r.resolveMember (r.unit.cursor child).type)) fun _ _ => True :=
    (runs_resolveMember (Stable.const True) _).weaken (fun _ hs => hs) fun _ _ _ => trivial
  have hresolved : Ensures (Collects r key position id names)
      (Action.resolve (r.resolveMember (r.unit.cursor child).type))
      (fun _ => Collects r key position id names) fun _ _ => True :=
    Ensures.collects (.of_plain_namesAt (Plain.resolveMember _) hresolve
      fun _ hs => ⟨trivial, hs.namesAt⟩)
      ((runs_resolveMember (stable_declared position id []) _).weaken (fun _ hs => hs)
        fun _ _ hs => hs.2) fun _ hs => hs.declared
  refine Ensures.bind hresolved fun type => Ensures.update fun s hs => ?_
  obtain ⟨hdeclares, ⟨a, ha, _⟩, hat⟩ := hs
  refine ⟨hat.separate.modify _ _, ?_⟩
  rw [State.index_goTo, fieldNames_addTo hat.separate hdeclares.bound ha]
  unfold namesFor
  by_cases hkey : keyOf r position = key
  · subst hkey
    rw [if_pos rfl, ← hat.names]
    show Function.update _ (keyOf r position) _ (keyOf r position) = _
    rw [Function.update_self]
    simp [fieldNamesIn, hfield, keyOf]
  · have hne : key ≠ r.unit.typeKey (r.unit.cursor position).type := fun h => hkey h.symm
    rw [Function.update_of_ne hne, if_neg hkey, List.append_nil]
    exact hat.names

theorem namesFor_nil (r : Resolver) (key : Key) (position : Nat) :
    namesFor r key position [] = [] := by
  unfold namesFor
  split <;> rfl

theorem namesFor_append (r : Resolver) (key : Key) (position : Nat) (few more : List Nat) :
    namesFor r key position (few ++ more) =
      namesFor r key position few ++ namesFor r key position more := by
  unfold namesFor
  split
  · exact fieldNamesIn_append few more
  · rfl

theorem namesFor_nested {inner : Nat} (h : isField r.unit inner = false) (rest : List Nat) :
    namesFor r key position (inner :: rest) = namesFor r key position rest := by
  unfold namesFor fieldNamesIn
  rw [List.filter_cons_of_neg (by simp [h])]

/-- **A part of a definition** gives the names of its fields. -/
theorem ensures_readMember_names {read : Nat → Action Unit} {member : Member}
    (hm : member ∈ members r.unit (r.unit.cursor position))
    (hruns : ∀ inner, (r.unit.cursor inner).kind.isTag = true →
      Runs r (fun _ => True) (read inner) fun _ _ => True)
    (hread : ∀ inner ∈ memberCursors r.unit position, (r.unit.cursor inner).kind.isTag = true →
      ∀ names, Ensures (NamesAt key names) (read inner) (fun _ => NamesAt key names)
        fun _ _ => True) :
    Ensures (Collects r key position id names) (readMember r read id member)
      (fun _ => Collects r key position id (names ++ namesFor r key position member.cursors))
      fun _ _ => True := by
  refine Ensures.collects ?_ ((runs_readMember hm hruns).frame (stable_hasFields id []))
    fun _ hs => hs.declared
  have hamong := among_of_mem_members hm
  have hcursors : ∀ c ∈ member.cursors, c ∈ memberCursors r.unit position := by
    intro c hc
    rw [memberCursors, ← flatMap_cursors_members]
    exact List.mem_flatMap.2 ⟨member, hm, hc⟩
  cases member with
  | nested inner =>
    rw [Member.cursors, namesFor_nested hamong.2, namesFor_nil, List.append_nil]
    exact (hread inner (hcursors inner List.mem_cons_self) (isTag_of_mem_members hm (.inl rfl))
      names).weaken (fun _ hs => hs.namesAt) fun _ _ hs => hs
  | field nested child description =>
    cases nested with
    | none => exact ensures_addField_names hamong.2.1 description
    | some inner =>
      have htag := isTag_of_mem_members hm (.inr ⟨child, description, rfl⟩)
      have hinner : Ensures (Collects r key position id names) (read inner)
          (fun _ => Collects r key position id names) fun _ _ => True :=
        Ensures.collects ((hread inner (hcursors inner List.mem_cons_self) htag names).weaken
          (fun _ hs => hs.namesAt) fun _ _ hs => hs)
          ((hruns inner htag).keeping (stable_declared position id [])) fun _ hs => hs.declared
      have hdonate := fun index => @runs_donateNested r position id inner child description hm index
      have hnamed : ∀ index, Ensures (fun s => index = s.index ∧ Collects r key position id names s)
          (donateName r (r.unit.cursor inner).type
            (nameOf index id ++ (r.unit.cursor child).name r.prefixes))
          (fun _ => Collects r key position id names) fun _ _ => True := fun index =>
        Ensures.collects (.of_plain_namesAt (plain_donateName _ _) (hdonate index)
          fun s hs => ⟨⟨hs.1, hs.2.declares⟩, hs.2.namesAt⟩)
          (((hdonate index).frame (stable_declared position id [])).weaken (fun _ hs => hs)
            fun _ _ hs => hs.2) fun s hs => ⟨⟨hs.1, hs.2.declares⟩, hs.2.declared⟩
      have hboth : Member.cursors (.field (some inner) child description) = [inner, child] := rfl
      rw [hboth, namesFor_nested (hamong.2.2 inner rfl).2]
      refine Ensures.bind hinner fun _ => Ensures.bind Ensures.index fun index => ?_
      exact Ensures.bind (hnamed index) fun _ => ensures_addField_names hamong.2.1 description

/-- **All parts of a definition** give the names of its fields, in order. -/
theorem ensures_members_names {read : Nat → Action Unit}
    (hruns : ∀ inner, (r.unit.cursor inner).kind.isTag = true →
      Runs r (fun _ => True) (read inner) fun _ _ => True)
    (hread : ∀ inner ∈ memberCursors r.unit position, (r.unit.cursor inner).kind.isTag = true →
      ∀ names, Ensures (NamesAt key names) (read inner) (fun _ => NamesAt key names)
        fun _ _ => True) :
    Ensures (Collects r key position id names)
      (Action.each (members r.unit (r.unit.cursor position)) (readMember r read id))
      (fun _ => Collects r key position id
        (names ++ namesFor r key position (memberCursors r.unit position))) fun _ _ => True := by
  have hstep : ∀ done member rest, members r.unit (r.unit.cursor position) = done ++ member :: rest →
      Ensures
        (Collects r key position id
          (names ++ namesFor r key position (done.flatMap Member.cursors)))
        (readMember r read id member)
        (fun _ => Collects r key position id
          (names ++ namesFor r key position ((done ++ [member]).flatMap Member.cursors)))
        fun _ _ => True := by
    intro done member rest hsplit
    have hm : member ∈ members r.unit (r.unit.cursor position) := by rw [hsplit]; simp
    rw [List.flatMap_append, List.flatMap_singleton, namesFor_append, ← List.append_assoc]
    exact ensures_readMember_names hm hruns hread
  have hloop := Ensures.each (fun done => Collects r key position id
    (names ++ namesFor r key position (done.flatMap Member.cursors))) hstep
  rw [flatMap_cursors_members, List.flatMap_nil, namesFor_nil, List.append_nil] at hloop
  exact hloop

/-- A placeholder makes an aggregate known and changes no names, since it has no fields. -/
theorem ensures_placeholder_names (kind : (r.unit.cursor position).kind.isAggregate = true) :
    Ensures (NamesAt key names)
      (Action.placeholder (r.unit.typeKey (r.unit.cursor position).type)
        ((r.unit.cursor position).name r.prefixes) ((r.unit.cursor position).kind = .unionDecl))
      (fun id s => Known r position id s ∧ NamesAt key names s) fun _ _ => True := by
  have hknown := (Ensures.of_runs (runs_placeholder kind)).weaken
    (fun s (_ : NamesAt key names s) => trivial) fun _ _ hs => hs
  refine hknown.and ?_
  intro s hs
  unfold Action.placeholder
  split
  · rename_i id index hok
    refine ⟨fun id' hid => ?_, fun _ _ => trivial⟩
    cases hid
    refine ⟨hs.separate.placeholder hok, ?_⟩
    rw [← hs.names]
    exact congrFun (fieldNames_placeholder hok) key
  · exact ⟨fun id' hid => (nomatch hid), fun _ _ => trivial⟩

/-- What the fields under a key are called after an aggregate has been read: as its members are if it
is a definition with that key, and else as before. -/
def namesAfter (r : Resolver) (key : Key) (position : Nat) (names : List Name) : List Name :=
  if keyOf r position = key ∧ (r.unit.cursor position).isDefinition = true then
    fieldNamesIn r (memberCursors r.unit position)
  else names

/-- **A structure or union** gives the names of its fields under its key. -/
theorem ensures_readAggregate_names {read : Nat → Action Unit}
    (kind : (r.unit.cursor position).kind.isAggregate = true)
    (hruns : ∀ inner, (r.unit.cursor inner).kind.isTag = true →
      Runs r (fun _ => True) (read inner) fun _ _ => True)
    (hread : (r.unit.cursor position).isDefinition = true → ∀ inner ∈ memberCursors r.unit position,
      (r.unit.cursor inner).kind.isTag = true → ∀ names,
        Ensures (NamesAt key names) (read inner) (fun _ => NamesAt key names) fun _ _ => True)
    (comment : List String) :
    Ensures (NamesAt key names) (readAggregate r read (r.unit.cursor position) comment)
      (fun _ => NamesAt key (namesAfter r key position names)) fun _ _ => True := by
  unfold readAggregate
  refine Ensures.bind (ensures_placeholder_names kind) fun id => ?_
  have htag := CursorKind.isTag_of_isAggregate kind
  have hadopt : Ensures (fun s => Known r position id s ∧ NamesAt key names s)
      (Action.update fun i => i.adoptName id ((r.unit.cursor position).name r.prefixes))
      (fun _ => Collects r key position id names) fun _ _ => True :=
    Ensures.collects (.of_plain_namesAt (Plain.adoptName _ _) (runs_adoptDeclared htag).forget
      fun _ hs => hs) ((runs_adoptDeclared htag).frame (stable_hasFields id []))
      fun s hs => ⟨hs.1, hs.1.2.imp fun a ha => ⟨ha, List.nil_sublist _⟩⟩
  refine Ensures.bind hadopt fun _ => ?_
  split
  · rename_i hforward
    refine Ensures.pure fun s hs => ?_
    have hsame : namesAfter r key position names = names := by
      unfold namesAfter
      rw [if_neg fun h => by simp [h.2] at hforward]
    rw [hsame]
    exact hs.namesAt
  rename_i hdefinition
  have hp : (r.unit.cursor position).isDefinition = true := by simpa using hdefinition
  refine Ensures.bind Ensures.index fun index => ?_
  split
  · exact Ensures.fail fun _ _ => trivial
  rename_i hfields
  -- the aggregate has no fields yet, so those that it gets are all that it has
  have hfirst : ∀ s, index = s.index ∧ Collects r key position id names s →
      keyOf r position = key → names = [] := by
    rintro s ⟨rfl, hs⟩ rfl
    have hnil : fieldsOf s.index id = [] := definitionError?_eq_none_iff.1 hfields
    rw [← hs.namesAt.names, keyOf, fieldNames_of_lookup hs.declares.bound, hnil]
    rfl
  have hplain : Plain (Action.update fun i => i.modify id (Entity.mapAggregate fun a =>
      { a with description := a.description ++ comment })) :=
    Plain.modify (Entity.view_mapAggregate fun a => rfl)
  have hdescribe : Ensures (Collects r key position id names)
      (Action.update fun i => i.modify id (Entity.mapAggregate fun a =>
        { a with description := a.description ++ comment }))
      (fun _ => Collects r key position id names) fun _ _ => True :=
    Ensures.collects (.of_plain_namesAt hplain (runs_describe comment).forget
      fun _ hs => ⟨hs.declares, hs.namesAt⟩)
      ((runs_describe comment).frame (stable_hasFields id [])) fun _ hs => hs.declared
  intro s hs
  have hnames : names ++ namesFor r key position (memberCursors r.unit position) =
      namesAfter r key position names := by
    unfold namesFor namesAfter
    by_cases hkey : keyOf r position = key
    · rw [if_pos hkey, if_pos ⟨hkey, hp⟩, hfirst s hs hkey, List.nil_append]
    · rw [if_neg hkey, if_neg fun h => hkey h.1, List.append_nil]
  rw [← hnames]
  exact (Ensures.bind hdescribe fun _ => (ensures_members_names hruns (hread hp)).weaken
    (fun _ hs => hs) fun _ _ hs => hs.namesAt) s hs.2

/-- **Declarations with other keys** do not change the names under a key, however deep they are nested
in each other. -/
theorem ensures_readTagWithin_names (levels : Nat) (comment : List String)
    (htag : (r.unit.cursor position).kind.isTag = true)
    (hkeys : ∀ q, Below r.unit position q → IsDefinition r.unit q → keyOf r q ≠ key) :
    Ensures (NamesAt key names) (readTagWithin r levels position comment)
      (fun _ => NamesAt key names) fun _ _ => True := by
  induction levels generalizing position comment names with
  | zero => exact Ensures.fail fun _ _ => trivial
  | succ levels ih =>
    unfold readTagWithin
    dsimp only
    split
    · rename_i hkind
      exact .of_plain_namesAt (plain_readEnumeration _ comment)
        (runs_readEnumeration hkind comment).forget fun _ hs => ⟨trivial, hs⟩
    rename_i hkind
    have kind : (r.unit.cursor position).kind.isAggregate = true := by
      simpa [CursorKind.isTag, hkind] using htag
    have hsame : namesAfter r key position names = names := by
      unfold namesAfter
      rw [if_neg fun h => hkeys position .refl ⟨kind, h.2⟩ h.1]
    have hall := @ensures_readAggregate_names r position key names _ kind
      (fun inner hinner => runs_readTagWithin levels [] hinner)
      (fun hdefinition inner hin hinner names => ih [] hinner fun q hbelow hq =>
        hkeys q (.head ⟨⟨kind, hdefinition⟩, hin⟩ hbelow) hq) comment
    rw [hsame] at hall
    exact hall

/-! ## A definition -/

/-- **A definition** gives its fields, with their descriptions, to the aggregate under its key. -/
theorem ensures_readAggregate_described {read : Nat → Action Unit}
    (definition : IsDefinition r.unit position)
    (hruns : ∀ inner, (r.unit.cursor inner).kind.isTag = true →
      Runs r (fun _ => True) (read inner) fun _ _ => True) (comment : List String) :
    Ensures (fun _ => True) (readAggregate r read (r.unit.cursor position) comment)
      (fun _ s => ∃ id, s.index.lookup (keyOf r position) = some id ∧
        HasFields id (((members r.unit (r.unit.cursor position)).filterMap Member.described?).map
          (shownAs r)) s) fun _ _ => True := by
  have htag := CursorKind.isTag_of_isAggregate definition.1
  unfold readAggregate
  refine Ensures.bind (.of_runs (runs_placeholder definition.1)) fun id => ?_
  refine Ensures.bind (.of_runs (((runs_adoptDeclared htag).frame (stable_hasFields id [])).weaken
    (fun s hs => ⟨hs, hs.2.imp fun a ha => ⟨ha, List.nil_sublist _⟩⟩) fun _ _ hs => hs)) fun _ => ?_
  rw [if_neg (by simp [definition.2])]
  refine Ensures.bind Ensures.index fun index => ?_
  split
  · exact Ensures.fail fun _ _ => trivial
  refine Ensures.bind (.of_runs (((runs_describe comment).frame (stable_hasFields id [])).weaken
    (fun _ hs => hs.2) fun _ _ hs => hs)) fun _ => ?_
  have hstep : ∀ done member rest, members r.unit (r.unit.cursor position) = done ++ member :: rest →
      Ensures
        (fun s => Declares r position id s ∧
          HasFields id ((done.filterMap Member.described?).map (shownAs r)) s)
        (readMember r read id member)
        (fun _ s => Declares r position id s ∧
          HasFields id (((done ++ [member]).filterMap Member.described?).map (shownAs r)) s)
        fun _ _ => True := by
    intro done member rest hsplit
    have hm : member ∈ members r.unit (r.unit.cursor position) := by rw [hsplit]; simp
    have hone : ((done ++ [member]).filterMap Member.described?).map (shownAs r) =
        (done.filterMap Member.described?).map (shownAs r) ++
          (member.described?.map (shownAs r)).toList := by
      rw [List.filterMap_append, List.map_append]
      cases hmember : member.described? <;> simp [hmember]
    rw [hone]
    exact ensures_readMember_described hm hruns _
  have hloop := Ensures.each (fun done s => Declares r position id s ∧
    HasFields id ((done.filterMap Member.described?).map (shownAs r)) s) hstep
  exact hloop.weaken (fun _ hs => hs) fun _ s hs => ⟨id, hs.1.bound, hs.2⟩

theorem readTagWithin_succ (definition : IsDefinition r.unit position) (levels : Nat)
    (comment : List String) :
    readTagWithin r (levels + 1) position comment =
      readAggregate r (readTagWithin r levels · []) (r.unit.cursor position) comment := by
  have hkind : (r.unit.cursor position).kind ≠ .enumDecl := by
    intro hkind
    rw [IsDefinition, hkind] at definition
    cases definition.1
  rw [readTagWithin]
  exact if_neg hkind

/-- **Fields are described by the comments next to them.**  Let a definition and its parts stand in a
file one behind the other.  When the definition has been read, its aggregate has among its fields, in
order, the fields of the definition; it has no others if keys lead to different entities and nothing
with the same key is nested in the definition.

* Each field is described by the first comment behind it and in front of what follows, if this is on
  the line where the field ends, and else by the last comment in the gap in front of the field.
* The gap starts behind the field before it and the comment behind that one, or at the location of
  the definition if there is none.
* No comment describes two fields. -/
theorem readTagWithin_describes {file : Nat} {tokens : List Token}
    (definition : IsDefinition r.unit position) (layout : Layout r.unit file tokens position)
    {levels : Nat} {comment : List String} {s t : State}
    (hread : readTagWithin r levels position comment s = (.ok (), t)) :
    let parts := memberCursors r.unit position
    let stop := (r.unit.cursor position).stop
    let start := (r.unit.cursor position).location.offset
    ∃ (id : EntityId) (a : Aggregate) (taken : List (Nat × Option Token)),
      let described := taken.map fun d => ((r.unit.cursor d.1).name r.prefixes, linesOf d.2)
      t.index.lookup (keyOf r position) = some id ∧ t.index.entity? id = some (.aggregate a) ∧
      described.Sublist (a.fields.map fun f => (f.name, f.description)) ∧
      (Separate s.index →
        (∀ q, Relation.TransGen (IsMemberOf r.unit) position q → IsDefinition r.unit q →
          keyOf r q ≠ keyOf r position) →
        a.fields.map (fun f => (f.name, f.description)) = described) ∧
      taken.map (·.1) = parts.filter (isField r.unit) ∧
      (∀ before p after, parts = before ++ p :: after → isField r.unit p = true →
        ∃ place, GapStart r.unit tokens stop start before (p :: after) place ∧
          taken[(before.filter (isField r.unit)).length]? =
            some (p, (trailing? tokens (r.unit.cursor p) (followingLocation r.unit stop after)).or
              (leading? tokens place (r.unit.cursor p)))) ∧
      (taken.filterMap (·.2)).Nodup := by
  intro parts stop start
  have hok : (readTagWithin r levels position comment s).1 = .ok () := by rw [hread]
  cases levels with
  | zero => cases hok
  | succ levels =>
    rw [readTagWithin_succ definition] at hread hok
    have hruns : ∀ inner, (r.unit.cursor inner).kind.isTag = true →
        Runs r (fun _ => True) (readTagWithin r levels inner []) fun _ _ => True :=
      fun inner htag => runs_readTagWithin levels [] htag
    obtain ⟨name, hname⟩ := layout.named
    have hmembers := described_membersFrom hname layout.row layout.inOrder
      (r.unit.cursor position).location _ layout.parts layout.located
    obtain ⟨id, hbound, a, ha, hshown⟩ :=
      (ensures_readAggregate_described definition hruns comment s trivial).1 () hok
    rw [members, ← memberCursors, hmembers, List.map_map] at hshown
    rw [hread] at hbound ha
    refine ⟨id, a, commentsFrom r.unit tokens stop start parts, hbound, ha, hshown, ?_,
      fst_commentsFrom .., ?_, nodup_commentsFrom layout.inOrder start layout.parts⟩
    · intro hseparate hnested
      have hnames := ((ensures_readAggregate_names definition.1 hruns
        (fun _ inner hin htag names => ensures_readTagWithin_names levels [] htag
          fun q hbelow => hnested q (.head' ⟨definition, hin⟩ hbelow)) comment) s
            ⟨hseparate, rfl⟩).1 () hok
      rw [hread] at hnames
      -- there are as many fields as the definition declares
      have hlength := congrArg List.length hnames.names
      unfold namesAfter at hlength
      rw [if_pos ⟨rfl, definition.2⟩, fieldNames_of_lookup hbound, fieldsOf_of_aggregate ha] at hlength
      refine (hshown.eq_of_length ?_).symm
      have hfields := congrArg List.length (fst_commentsFrom r.unit tokens stop start parts)
      simp only [List.length_map, fieldNamesIn] at hlength hfields ⊢
      rw [hlength, hfields]
    · rintro before p after hparts hp
      rw [hparts]
      exact exists_gapStart r.unit tokens stop start before p after hp

/-- `struct S { int a; /* A */` and on the next lines `/* B */ int b;` and
`union { int x; } u; /* U */ };` -/
def commentedFields : ParsedUnit where
  files := #["s.h"]
  tokens := #[[⟨.keyword, "struct", 0, 6, 1⟩, ⟨.identifier, "S", 7, 8, 1⟩,
    ⟨.punctuation, "\x7b", 9, 10, 1⟩, ⟨.keyword, "int", 13, 16, 2⟩, ⟨.identifier, "a", 17, 18, 2⟩,
    ⟨.punctuation, ";", 18, 19, 2⟩, ⟨.comment, "/* A */", 20, 27, 2⟩,
    ⟨.comment, "/* B */", 30, 37, 3⟩, ⟨.keyword, "int", 38, 41, 3⟩, ⟨.identifier, "b", 42, 43, 3⟩,
    ⟨.punctuation, ";", 43, 44, 3⟩, ⟨.keyword, "union", 47, 52, 4⟩,
    ⟨.punctuation, "\x7b", 53, 54, 4⟩, ⟨.keyword, "int", 55, 58, 4⟩, ⟨.identifier, "x", 59, 60, 4⟩,
    ⟨.punctuation, ";", 60, 61, 4⟩, ⟨.punctuation, "\x7d", 62, 63, 4⟩,
    ⟨.identifier, "u", 64, 65, 4⟩, ⟨.punctuation, ";", 65, 66, 4⟩,
    ⟨.comment, "/* U */", 67, 74, 4⟩, ⟨.punctuation, "\x7d", 75, 76, 5⟩,
    ⟨.punctuation, ";", 76, 77, 5⟩]]
  cursors := #[
    { Cursor.missing with
      kind := .structDecl, spelling := "S", location := ⟨some 0, 7, 1⟩, start := ⟨some 0, 0, 1⟩
      stop := ⟨some 0, 76, 5⟩, type := some 0, children := [1, 2, 3, 5], isDefinition := true },
    { Cursor.missing with
      kind := .fieldDecl, spelling := "a", location := ⟨some 0, 17, 2⟩, start := ⟨some 0, 13, 2⟩
      stop := ⟨some 0, 18, 2⟩, type := some 1 },
    { Cursor.missing with
      kind := .fieldDecl, spelling := "b", location := ⟨some 0, 42, 3⟩, start := ⟨some 0, 38, 3⟩
      stop := ⟨some 0, 43, 3⟩, type := some 1 },
    { Cursor.missing with
      kind := .unionDecl, location := ⟨some 0, 47, 4⟩, start := ⟨some 0, 47, 4⟩
      stop := ⟨some 0, 63, 4⟩, type := some 2, children := [4], isDefinition := true
      isAnonymous := true },
    { Cursor.missing with
      kind := .fieldDecl, spelling := "x", location := ⟨some 0, 59, 4⟩, start := ⟨some 0, 55, 4⟩
      stop := ⟨some 0, 60, 4⟩, type := some 1 },
    { Cursor.missing with
      kind := .fieldDecl, spelling := "u", location := ⟨some 0, 64, 4⟩, start := ⟨some 0, 47, 4⟩
      stop := ⟨some 0, 65, 4⟩, type := some 2 }]
  types := #[
    { SourceType.missing with kind := .record, spelling := "struct S", declaration := some 0 },
    { SourceType.missing with kind := .int, spelling := "int" },
    { SourceType.missing with kind := .record, spelling := "union (unnamed)", declaration := some 3 }]
  top := [0]
  includes := []
  diagnostics := []

theorem layout_commentedFields :
    Layout commentedFields 0 (commentedFields.tokens[0]?.getD []) 0 where
  named := ⟨"s.h", rfl⟩
  row := rfl
  inOrder := ⟨by decide, by decide⟩
  located := rfl
  parts := {
    inFile := by decide
    starts := by decide
    located := by decide
    extent := by decide
    locations := by decide
    stops := by decide
    stopInFile := rfl
    closing := by decide }

/-- Only the members of the union are nested deeper in the structure, and its key is another one. -/
theorem keyOf_nested_commentedFields (prefixes visible : List String) :
    ∀ q, Relation.TransGen (IsMemberOf commentedFields) 0 q → IsDefinition commentedFields q →
      keyOf ⟨commentedFields, prefixes, visible⟩ q ≠ keyOf ⟨commentedFields, prefixes, visible⟩ 0 := by
  intro q hnested
  have hrow : q ∈ [1, 2, 3, 4, 5] := by
    have hmembers : ∀ p ∈ [0, 1, 2, 3, 4, 5], ∀ c ∈ memberCursors commentedFields p,
        c ∈ [1, 2, 3, 4, 5] := by decide
    induction hnested with
    | single h => exact hmembers 0 (by decide) _ h.2
    | tail _ h ih => exact hmembers _ (List.mem_cons_of_mem _ ih) _ h.2
  have hkeys : ∀ p ∈ [1, 2, 3, 4, 5], IsDefinition commentedFields p →
      commentedFields.typeKey (commentedFields.cursor p).type ≠
        commentedFields.typeKey (commentedFields.cursor 0).type := by decide
  exact hkeys q hrow

/-- The first and the last field have a comment behind them, the second one has only the one in front
of it: the comment behind the first field ends where its gap starts. -/
theorem readTagWithin_describes_commentedFields :
    let r : Resolver := ⟨commentedFields, [], ["s.h"]⟩
    IsDefinition commentedFields 0 ∧
    Layout commentedFields 0 (commentedFields.tokens[0]?.getD []) 0 ∧
    ∃ (t : State) (id : EntityId) (a : Aggregate),
      readTagWithin r 3 0 [] .initial = (.ok (), t) ∧
      t.index.lookup (keyOf r 0) = some id ∧ t.index.entity? id = some (.aggregate a) ∧
      a.fields.map (fun f => (f.name, f.description)) =
        [(⟨["a"], some "a"⟩, ["A"]), (⟨["b"], some "b"⟩, ["B"]), (⟨["u"], some "u"⟩, ["U"])] := by
  intro r
  have hok : (readTagWithin r 3 0 [] .initial).1 = .ok () := by decide +kernel
  have hread : readTagWithin r 3 0 [] .initial =
      (.ok (), (readTagWithin r 3 0 [] .initial).2) := Prod.ext hok rfl
  have hdefinition : IsDefinition r.unit 0 := by decide
  obtain ⟨id, a, taken, hbound, ha, _, hexact, hfields, hplaces, _⟩ :=
    readTagWithin_describes hdefinition layout_commentedFields hread
  have htaken : taken = [(1, some ⟨.comment, "/* A */", 20, 27, 2⟩),
      (2, some ⟨.comment, "/* B */", 30, 37, 3⟩), (5, some ⟨.comment, "/* U */", 67, 74, 4⟩)] := by
    have hthree : taken.length = 3 := by
      have hlength := congrArg List.length hfields
      rw [List.length_map] at hlength
      exact hlength
    obtain ⟨_, _, hfirst⟩ := hplaces [] 1 [2, 3, 5] rfl rfl
    obtain ⟨place, hgap, hsecond⟩ := hplaces [1] 2 [3, 5] rfl rfl
    obtain ⟨_, _, hthird⟩ := hplaces [1, 2, 3] 5 [] rfl rfl
    have hplace : place = 27 := hgap.unique (.inr ⟨[], 1, [], rfl, rfl, by simp, by decide⟩)
    subst hplace
    refine List.ext_getElem? fun i => ?_
    match i with
    | 0 => exact hfirst
    | 1 => exact hsecond
    | 2 => exact hthird
    | i + 3 =>
      rw [List.getElem?_eq_none (by omega)]
      rfl
  refine ⟨hdefinition, layout_commentedFields, _, id, a, hread, hbound, ha, ?_⟩
  rw [hexact separate_empty (keyOf_nested_commentedFields [] ["s.h"]), htaken]
  decide +kernel

end HeaderIndex.Reader
