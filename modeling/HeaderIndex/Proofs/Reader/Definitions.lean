import HeaderIndex.Proofs.Reader.Ensures
import HeaderIndex.Proofs.Reader.Identity
import HeaderIndex.Proofs.Reader.Progress

/-!
# The fields that reading a unit collects

* `Fills` — an action fills in all definitions that are reached at a path or further down.
* `ensures_readMember`, `ensures_members` — one part of a definition takes it from one middle to the
  next, and all parts take it to its end.
* `fills_readAggregate`, `fills_readTagWithin` — so a definition is filled in with all that is nested
  in it, and nothing else is touched.
* `read_fields` — after a reading each definition has its fields, each once and in order.
-/

namespace HeaderIndex.Reader

variable {r : Resolver} {table : Table} {id : EntityId} {position : Nat} {path : List Nat}

/-! ## Reading with progress -/

/-- A failure for another reason than that something is defined twice. -/
def NotDuplicate (error : ReadError) (_ : State) : Prop :=
  ∀ text, error ≠ .duplicateDefinition text

theorem notDuplicate_type (place : Option Place) (error : TypeError) (s : State) :
    NotDuplicate (.type place error) s := fun _ h => nomatch h

theorem Ensures.of_plain_progress {α : Type} {action : Action α} (h : Plain action)
    (hr : Runs r (fun _ => True) action fun _ _ => True) :
    Ensures (fun s => Progress r table s.index) action (fun _ s => Progress r table s.index)
      NotDuplicate :=
  (Ensures.of_plain (p := fun s => Progress r table s.index) h hr (fun _ _ hpath hfields hs =>
    hs.growsTo hpath.growsTo (stable_separate.path hpath hs.separate) hfields)
    notDuplicate_type).weaken (fun _ hs => ⟨trivial, hs⟩) fun _ _ hs => hs

/-- The index holds the fields of a table, and the key of a definition leads to an aggregate that has
been offered its name. -/
def Filling (r : Resolver) (table : Table) (position : Nat) (id : EntityId) (s : State) : Prop :=
  Progress r table s.index ∧ s.index.aggregateAt? (keyOf r position) = some id ∧
    Declares r position id s

theorem stable_aggregateAt? (key : Key) (id : EntityId) :
    Stable r fun s => s.index.aggregateAt? key = some id :=
  fun _ _ step h => step.growsTo.aggregateAt? h

theorem Ensures.of_plain_filling {α : Type} {P : State → Prop} {action : Action α}
    (h : Plain action) (hr : Runs r P action fun _ _ => True) :
    Ensures (fun s => P s ∧ Filling r table position id s) action
      (fun _ => Filling r table position id) NotDuplicate :=
  .of_plain h hr (fun _ _ hpath hfields hs =>
    ⟨hs.1.growsTo hpath.growsTo (stable_separate.path hpath hs.1.separate) hfields,
      hpath.growsTo.aggregateAt? hs.2.1, hs.2.2.growsTo hpath.growsTo⟩) notDuplicate_type

theorem Filling.growsTo {s t : State} (h : Filling r table position id s)
    (hgrows : s.index.GrowsTo t.index) (separate : Separate t.index)
    (hfields : fieldNames t.index = fieldNames s.index) : Filling r table position id t :=
  ⟨h.1.growsTo hgrows separate hfields, hgrows.aggregateAt? h.2.1, h.2.2.growsTo hgrows⟩

/-- The aggregate of a declaration is there once the declaration is known. -/
theorem ensures_placeholder (hkey : keyOf r position ≠ .undeclared) (name : Name) (isUnion : Bool) :
    Ensures (fun s => Progress r table s.index)
      (Action.placeholder (keyOf r position) name isUnion)
      (fun id s => Progress r table s.index ∧ s.index.aggregateAt? (keyOf r position) = some id)
      NotDuplicate := by
  intro s hs
  unfold Action.placeholder
  split
  · rename_i id index hok
    refine ⟨fun id' hid => ?_, fun error he => nomatch he⟩
    cases hid
    obtain ⟨hl, ha, _⟩ := Index.placeholder_eq_ok hok
    exact ⟨hs.growsTo (Index.growsTo_placeholder hok) (hs.separate.placeholder hok)
      (fieldNames_placeholder hok), Index.aggregateAt?_eq_some.2 ⟨hkey, hl, ha⟩⟩
  · refine ⟨fun id' hid => (nomatch hid), fun error he => ?_⟩
    cases he
    exact fun _ h => nomatch h

/-- The aggregate is offered the name of the declaration. -/
theorem ensures_adoptName :
    Ensures
      (fun s => Progress r table s.index ∧ s.index.aggregateAt? (keyOf r position) = some id)
      (Action.update fun i => i.adoptName id ((r.unit.cursor position).name r.prefixes))
      (fun _ => Filling r table position id) NotDuplicate := by
  refine Ensures.update fun s hs => ?_
  obtain ⟨_, hl, ha⟩ := Index.aggregateAt?_eq_some.1 hs.2
  have hgrows := s.index.growsTo_adoptName id ((r.unit.cursor position).name r.prefixes)
  exact ⟨hs.1.growsTo hgrows (hs.1.separate.modify _ _) (fieldNames_adoptName _ _ _),
    hgrows.aggregateAt? hs.2, Known.adoptName ⟨hl, ha⟩⟩

/-- The comment of a definition is no field. -/
theorem ensures_describe (comment : List String) :
    Ensures (Filling r table position id)
      (Action.update fun i => i.modify id (Entity.mapAggregate fun a =>
        { a with description := a.description ++ comment }))
      (fun _ => Filling r table position id) NotDuplicate := by
  refine Ensures.update fun s hs => hs.growsTo ?_ (hs.1.separate.modify _ _)
    (fieldNames_modify (Entity.view_mapAggregate ?_) _ _)
  · exact Index.growsTo_modify fun e _ => growsTo_mapAggregate e fun a =>
      ⟨fun _ => rfl, rfl, List.prefix_rfl, List.prefix_rfl⟩
  · exact fun a => rfl

/-- Reading what is at a path fills in all definitions that are reached there or further down, if
none of them has begun. -/
structure Fills (r : Resolver) (path : List Nat) (action : Action Unit) : Prop where
  runs : Runs r (fun _ => True) action fun _ _ => True
  ensures : ∀ table : Table,
    (∀ q ∈ definitionsUnder r.unit r.visible path, table q = none) →
      Ensures (fun s => Progress r table s.index) action
        (fun _ s => Progress r (filled r table (definitionsUnder r.unit r.visible path)) s.index)
        NotDuplicate

/-- A plain reader fills in nothing, where there is nothing to fill in. -/
theorem Fills.of_plain {action : Action Unit} (h : ReachedAt r.unit r.visible path position)
    (hnot : ¬ IsDefinition r.unit position) (hplain : Plain action)
    (hr : Runs r (fun _ => True) action fun _ _ => True) : Fills r path action where
  runs := hr
  ensures := by
    intro table _
    rw [definitionsUnder_of_not h hnot, filled_empty]
    exact .of_plain_progress hplain hr

/-! ## Parts of a definition -/

/-- The cursors that a part of an aggregate is made of. -/
def Member.cursors : Member → List Nat
  | nested cursor => [cursor]
  | field front cursor _ => front.toList ++ [cursor]

/-- The parts of an aggregate are made of its members, each once and in order. -/
theorem flatMap_cursors_membersFrom (unit : ParsedUnit) (stop previous : Location)
    (children : List Nat) :
    (membersFrom unit stop previous children).flatMap Member.cursors = children := by
  fun_induction membersFrom unit stop previous children with
  | case1 => rfl
  | case2 previous child rest hf description next hc ih =>
    rw [List.flatMap_cons, ih]
    rfl
  | case3 => rfl
  | case4 previous child hf field more hmore description next hc ih =>
    rw [List.flatMap_cons, ih]
    rfl
  | case5 previous child hf field more hmore ih =>
    rw [List.flatMap_cons, ih]
    rfl

theorem flatMap_cursors_members (unit : ParsedUnit) (cursor : Cursor) :
    (members unit cursor).flatMap Member.cursors = cursor.children.filter (isMember unit) :=
  flatMap_cursors_membersFrom ..

section Parts

variable (forest : Forest r.unit r.visible) (own : OwnKeys r) (hp : IsDefinition r.unit position)
  (h : ReachedAt r.unit r.visible path position) {seen : List Nat}

include forest h in
/-- A nested declaration. -/
theorem ensures_nested
    (hnone : ∀ q ∈ definitionsUnder r.unit r.visible path, table q = none)
    {action : Action Unit} (hfills : Fills r (seen.length :: path) action) {inner : Nat}
    (hfield : isField r.unit inner = false) :
    Ensures (Filling r (within r table path position seen) position id) action
      (fun _ => Filling r (within r table path position (seen ++ [inner])) position id)
      NotDuplicate := by
  have hfilled := hfills.ensures _ fun q hq => within_eq_none forest h hnone hq
  rw [within_nested forest h hfield] at hfilled
  exact hfilled.frame hfills.runs fun s t step hs =>
    ⟨stable_aggregateAt? _ id s t step hs.1, stable_declares _ _ s t step hs.2⟩

include own hp h in
/-- A field. -/
theorem ensures_field {child : Nat}
    (hchild : (memberCursors r.unit position)[seen.length]? = some child)
    (hfield : isField r.unit child = true) (description : List String) :
    Ensures (Filling r (within r table path position seen) position id)
      (do
        let type ← Action.resolve (r.resolveMember (r.unit.cursor child).type)
        Action.update fun index => index.modify id (Entity.mapAggregate fun a =>
          { a with fields := a.fields ++
            [⟨(r.unit.cursor child).name r.prefixes, type, description⟩] }))
      (fun _ => Filling r (within r table path position (seen ++ [child])) position id)
      NotDuplicate := by
  have hresolve : Runs r (fun _ => True)
      (Action.resolve (r.resolveMember (r.unit.cursor child).type)) fun _ _ => True :=
    (runs_resolveMember (Stable.const True) _).weaken (fun _ hs => hs) fun _ _ _ => trivial
  refine Ensures.bind (Q := fun _ => Filling r (within r table path position seen) position id)
    ?_ fun type => ?_
  · exact (Ensures.of_plain_filling (Plain.resolveMember _) hresolve).weaken
      (fun _ hs => ⟨trivial, hs⟩) fun _ _ hs => hs
  · refine Ensures.update fun s hs => ?_
    have hgrows : s.index.GrowsTo (s.index.modify id (Entity.mapAggregate fun a =>
        { a with fields := a.fields ++
          [⟨(r.unit.cursor child).name r.prefixes, type, description⟩] })) :=
      Index.growsTo_modify fun e _ => growsTo_mapAggregate e fun a =>
        ⟨fun _ => rfl, rfl, List.prefix_append _ _, List.prefix_rfl⟩
    refine ⟨?_, hgrows.aggregateAt? hs.2.1, hs.2.2.growsTo hgrows⟩
    rw [within_field hp h hchild hfield]
    refine hs.1.update own ⟨hp, path, h⟩ hs.2.1 hgrows (hs.1.separate.modify _ _) ?_
    have hseen : fieldNames s.index (keyOf r position) = fieldNamesIn r seen :=
      (hs.1.begun position _ (Function.update_self ..)).2
    rw [State.index_goTo, fieldNames_addField hs.1.separate hs.2.1, hseen]

include forest own hp h in
/-- **A part of a definition** takes the table from one middle of the definition to the next. -/
theorem ensures_readMember {read : Nat → Action Unit}
    (hnone : ∀ q ∈ definitionsUnder r.unit r.visible path, table q = none)
    (hread : ∀ place inner, ReachedAt r.unit r.visible (place :: path) inner →
      (r.unit.cursor inner).kind.isTag = true → Fills r (place :: path) (read inner))
    {done rest : List Member} {member : Member}
    (hsplit : members r.unit (r.unit.cursor position) = done ++ member :: rest) :
    Ensures
      (Filling r (within r table path position (done.flatMap Member.cursors)) position id)
      (readMember r read id member)
      (fun _ => Filling r
        (within r table path position ((done ++ [member]).flatMap Member.cursors)) position id)
      NotDuplicate := by
  have hm : member ∈ members r.unit (r.unit.cursor position) := by rw [hsplit]; simp
  have hamong := among_of_mem_members hm
  have hcursors : memberCursors r.unit position =
      done.flatMap Member.cursors ++ (member.cursors ++ rest.flatMap Member.cursors) := by
    rw [memberCursors, ← flatMap_cursors_members, hsplit, List.flatMap_append, List.flatMap_cons]
  rw [List.flatMap_append, List.flatMap_singleton]
  generalize done.flatMap Member.cursors = seen at hcursors ⊢
  -- what is nested at the place behind those seen so far
  have hnested : ∀ inner more, member.cursors = inner :: more → isField r.unit inner = false →
      (r.unit.cursor inner).kind.isTag = true →
      Ensures (Filling r (within r table path position seen) position id) (read inner)
        (fun _ => Filling r (within r table path position (seen ++ [inner])) position id)
        NotDuplicate := by
    intro inner more hmore hfield htag
    have hplace : (memberCursors r.unit position)[seen.length]? = some inner := by
      simp [hcursors, hmore]
    exact ensures_nested forest h hnone (hread _ inner (.member h hp hplace) htag) hfield
  cases member with
  | nested inner =>
    exact hnested inner [] rfl hamong.2 (isTag_of_mem_members hm (.inl rfl))
  | field front child description =>
    cases front with
    | none =>
      have hplace : (memberCursors r.unit position)[seen.length]? = some child := by
        simp [hcursors, Member.cursors]
      exact ensures_field own hp h hplace hamong.2.1 description
    | some inner =>
      have hplace : (memberCursors r.unit position)[(seen ++ [inner]).length]? = some child := by
        simp [hcursors, Member.cursors]
      have htag := isTag_of_mem_members hm (.inr ⟨child, description, rfl⟩)
      refine Ensures.bind (hnested inner [child] rfl (hamong.2.2 inner rfl).2 htag) fun _ => ?_
      refine Ensures.bind Ensures.index fun index => ?_
      refine Ensures.bind ((Ensures.of_plain_filling (plain_donateName _ _)
        (runs_donateNested hm index)).weaken (fun s hs => ⟨⟨hs.1, hs.2.2.2⟩, hs.2⟩)
          fun _ _ hs => hs) fun _ => ?_
      have hboth : seen ++ Member.cursors (.field (some inner) child description) =
          seen ++ [inner] ++ [child] := (List.append_assoc ..).symm
      rw [hboth]
      exact ensures_field own hp h hplace hamong.2.1 description

include forest own hp h in
/-- **All parts of a definition**, from where nothing has been seen to where everything has. -/
theorem ensures_members {read : Nat → Action Unit}
    (hnone : ∀ q ∈ definitionsUnder r.unit r.visible path, table q = none)
    (hread : ∀ place inner, ReachedAt r.unit r.visible (place :: path) inner →
      (r.unit.cursor inner).kind.isTag = true → Fills r (place :: path) (read inner)) :
    Ensures (Filling r table position id)
      (Action.each (members r.unit (r.unit.cursor position)) (readMember r read id))
      (fun _ => Filling r (filled r table (definitionsUnder r.unit r.visible path)) position id)
      NotDuplicate := by
  have hloop := Ensures.each (fun done =>
    Filling r (within r table path position (done.flatMap Member.cursors)) position id)
    fun done member rest hsplit => ensures_readMember forest own hp h hnone hread hsplit
  rw [flatMap_cursors_members, List.flatMap_nil, within_nil] at hloop
  rw [← within_memberCursors h hp]
  refine hloop.weaken (fun s hs => ⟨?_, hs.2⟩) fun _ s hs => hs
  exact hs.1.begin own ⟨hp, path, h⟩ (hnone position ⟨hp, [], h⟩) hs.2.1

end Parts

/-! ## Definitions and what is nested in them -/

section Declarations

variable (forest : Forest r.unit r.visible) (own : OwnKeys r)
  (declares : Resolver.DeclaresTypes r.unit)

/-- A definition that has not begun is not found to have fields. -/
theorem Filling.fieldsOf_eq_nil {s : State} (hs : Filling r table position id s) (own : OwnKeys r)
    (hp : position ∈ definitions r.unit r.visible) (hnone : table position = none) :
    fieldsOf s.index id = [] := by
  have hnames := hs.1.fieldNames_eq_nil own hp hnone
  rw [fieldNames_of_lookup (Index.aggregateAt?_eq_some.1 hs.2.1).2.1] at hnames
  exact List.map_eq_nil_iff.1 hnames

include forest own declares in
/-- **A structure or union** is filled in with everything nested in it. -/
theorem fills_readAggregate {read : Nat → Action Unit}
    (kind : (r.unit.cursor position).kind.isAggregate = true)
    (h : ReachedAt r.unit r.visible path position)
    (hruns : ∀ inner, (r.unit.cursor inner).kind.isTag = true →
      Runs r (fun _ => True) (read inner) fun _ _ => True)
    (hread : ∀ place inner, ReachedAt r.unit r.visible (place :: path) inner →
      (r.unit.cursor inner).kind.isTag = true → Fills r (place :: path) (read inner))
    (comment : List String) :
    Fills r path (readAggregate r read (r.unit.cursor position) comment) where
  runs := (runs_readAggregate kind hruns comment).forget
  ensures := by
    intro table hnone
    have hkey : keyOf r position ≠ .undeclared := by
      unfold keyOf
      rw [declares position (.inl (CursorKind.isTag_of_isAggregate kind))]
      exact fun hk => nomatch hk
    unfold readAggregate
    refine Ensures.bind (ensures_placeholder hkey _ _) fun id => ?_
    refine Ensures.bind ensures_adoptName fun _ => ?_
    split
    · rename_i hforward
      have hnot : ¬ IsDefinition r.unit position := fun hp => by simp [hp.2] at hforward
      rw [definitionsUnder_of_not h hnot, filled_empty]
      exact Ensures.pure fun s hs => hs.1
    rename_i hdefinition
    have hp : IsDefinition r.unit position := ⟨kind, by simpa using hdefinition⟩
    have hfirst : table position = none := hnone position ⟨hp, [], h⟩
    refine Ensures.bind Ensures.index fun index => ?_
    split
    · rename_i error herror
      refine Ensures.fail fun s hs => ?_
      have hfields := (definitionError?_eq_some_iff.1 herror).1
      rw [hs.1] at hfields
      exact absurd (hs.2.fieldsOf_eq_nil own ⟨hp, path, h⟩ hfirst) hfields
    refine Ensures.bind ((ensures_describe comment).weaken (fun s hs => hs.2)
      fun _ _ hs => hs) fun _ => ?_
    exact (ensures_members forest own hp h hnone hread).weaken (fun s hs => hs) fun _ s hs => hs.1

include forest own declares in
/-- **A declaration with a tag**, however deep others are nested in it. -/
theorem fills_readTagWithin (levels : Nat) (h : ReachedAt r.unit r.visible path position)
    (htag : (r.unit.cursor position).kind.isTag = true) (comment : List String) :
    Fills r path (readTagWithin r levels position comment) := by
  induction levels generalizing path position comment with
  | zero =>
    refine ⟨runs_readTagWithin 0 comment htag, fun table _ => ?_⟩
    exact Ensures.fail fun _ _ _ he => nomatch he
  | succ levels ih =>
    unfold readTagWithin
    dsimp only
    split
    · rename_i hkind
      have hnot : ¬ IsDefinition r.unit position := fun hp => by
        rw [IsDefinition, hkind] at hp
        cases hp.1
      exact .of_plain h hnot (plain_readEnumeration _ comment)
        (runs_readEnumeration hkind comment).forget
    · rename_i hkind
      have kind : (r.unit.cursor position).kind.isAggregate = true := by
        simpa [CursorKind.isTag, hkind] using htag
      exact fills_readAggregate forest own declares kind h
        (fun inner hinner => runs_readTagWithin levels [] hinner)
        (fun place inner hat hinner => ih hat hinner []) comment

include forest own declares in
/-- **Any declaration.** -/
theorem fills_readDeclaration (config : Config) (h : ReachedAt r.unit r.visible path position)
    (comment : List String) : Fills r path (readDeclaration config r position comment) := by
  cases htag : (r.unit.cursor position).kind.isTag with
  | false =>
    have hnot : ¬ IsDefinition r.unit position := fun hp => by
      rw [CursorKind.isTag_of_isAggregate hp.1] at htag
      cases htag
    exact .of_plain h hnot (plain_readDeclaration config comment htag)
      (runs_readDeclaration config position comment)
  | true =>
    rw [readDeclaration_of_isTag config comment htag]
    exact fills_readTagWithin forest own declares _ h htag comment

include forest own declares in
/-- **A whole unit**: every definition that is reached is filled in. -/
theorem ensures_readUnit (config : Config) (hr : r.prefixes = config.prefixes) :
    Ensures (fun s => Progress r (fun _ => none) s.index) (readUnit config r.unit r.visible)
      (fun _ s => Progress r (filled r (fun _ => none) (definitions r.unit r.visible)) s.index)
      NotDuplicate := by
  have hresolver : (⟨r.unit, config.prefixes, r.visible⟩ : Resolver) = r := by rw [← hr]
  have hpositions := map_position_gapsFrom r.unit r.visible [] r.unit.top
  unfold readUnit
  dsimp only
  rw [hresolver]
  refine (Ensures.each (fun done s => Progress r
    (filled r (fun _ => none) (definitionsBefore r.unit r.visible [] done.length)) s.index)
    fun done declaration rest hsplit => ?_).weaken (fun s hs => ?_) fun _ s hs => ?_
  · have hat : ReachedAt r.unit r.visible [done.length] declaration.position := by
      refine .top ?_
      rw [visibleTop, ← hpositions, ← gaps, hsplit]
      simp
    have hfills := fills_readDeclaration forest own declares config hat
      (declaration.comment r.unit)
    have hnone : ∀ q ∈ definitionsUnder r.unit r.visible [done.length],
        filled r (fun _ => none) (definitionsBefore r.unit r.visible [] done.length) q = none :=
      fun q hq => filled_of_notMem (forest.notMem_before hq)
    have hdone := (hfills.ensures _ hnone).inDeclaration
      ⟨declaration.file, (r.unit.cursor declaration.position).location.line,
        (r.unit.cursor declaration.position).spelling⟩ notDuplicate_type
    rw [filled_filled, ← definitionsBefore_succ] at hdone
    rw [List.length_append, List.length_singleton]
    exact hdone
  · rw [List.length_nil, definitionsBefore_zero, filled_empty]
    exact hs
  · have hlength := congrArg List.length hpositions
    rw [List.length_map] at hlength
    rw [definitions_eq, visibleTop, ← hlength]
    exact hs

end Declarations

/-- The outcome of a reading is the index that it ends in, or its error, unless it is broken off. -/
theorem result_read (config : Config) (unit : ParsedUnit) (visible : List String) :
    (read config unit visible).result =
      match (readUnit config unit visible .initial).2.cut with
      | some _ => .error .overlong
      | none => (readUnit config unit visible .initial).1.map fun _ =>
          (readUnit config unit visible .initial).2.index := by
  unfold read Outcome.of
  rcases readUnit config unit visible .initial with ⟨_ | _, ⟨_, _, _, _ | _⟩⟩ <;> rfl

theorem readUnit_of_result_ok {config : Config} {unit : ParsedUnit} {visible : List String}
    {index : Index} (h : (read config unit visible).result = .ok index) :
    (readUnit config unit visible .initial).1 = .ok () ∧
      (readUnit config unit visible .initial).2.index = index := by
  rw [result_read] at h
  split at h
  · cases h
  cases hrun : (readUnit config unit visible .initial).1 with
  | error error => rw [hrun] at h; cases h
  | ok => rw [hrun] at h; exact ⟨rfl, Except.ok.inj h⟩

theorem readUnit_of_result_error {config : Config} {unit : ParsedUnit} {visible : List String}
    {error : ReadError} (h : (read config unit visible).result = .error error) :
    error = .overlong ∨ (readUnit config unit visible .initial).1 = .error error := by
  rw [result_read] at h
  split at h
  · exact .inl (Except.error.inj h).symm
  cases hrun : (readUnit config unit visible .initial).1 with
  | error other => rw [hrun] at h; exact .inr (congrArg Except.error (Except.error.inj h))
  | ok => rw [hrun] at h; cases h

/-- **No field is lost, added or moved.**  Let the reached cursors form a forest, let types be
declared where their cursors say, and let no two definitions that are reached be of the same thing.
Then a reading never finds anything defined twice.  When it ends well, each definition that is reached
stands under its key with one field for each field among its children, in order and with their names,
whatever is nested between them and however the key was first mentioned; and an aggregate that no
such definition stands for has no fields. -/
theorem read_fields (config : Config) (unit : ParsedUnit) (visible : List String)
    (forest : Forest unit visible) (declares : Resolver.DeclaresTypes unit)
    (single : ∀ p ∈ definitions unit visible, ∀ q ∈ definitions unit visible,
      unit.canonicalCursor p = unit.canonicalCursor q → p = q) :
    (∀ text, (read config unit visible).result ≠ .error (.duplicateDefinition text)) ∧
      ∀ index, (read config unit visible).result = .ok index →
        (∀ p ∈ definitions unit visible, ∃ id a,
          index.lookup (unit.typeKey (unit.cursor p).type) = some id ∧
            index.entity? id = some (.aggregate a) ∧
            a.fields.map (·.name) =
              ((unit.cursor p).children.filter (isField unit)).map fun child =>
                (unit.cursor child).name config.prefixes) ∧
          ∀ key id a, index.lookup key = some id → index.entity? id = some (.aggregate a) →
            (∀ p ∈ definitions unit visible, unit.typeKey (unit.cursor p).type ≠ key) →
              a.fields = [] := by
  have own : OwnKeys ⟨unit, config.prefixes, visible⟩ := by
    intro p hp q hq hkey
    have hdeclared : ∀ p ∈ definitions unit visible,
        unit.typeKey (unit.cursor p).type = .type (unit.canonicalCursor p) := fun p hp =>
      declares p (.inl (CursorKind.isTag_of_isAggregate hp.1.1))
    refine single p hp q hq (Key.type.inj ?_)
    rw [← hdeclared p hp, ← hdeclared q hq]
    exact hkey
  obtain ⟨hok, herror⟩ := ensures_readUnit (r := ⟨unit, config.prefixes, visible⟩) forest own
    declares config rfl .initial progress_empty
  refine ⟨fun text htext => ?_, fun index hindex => ?_⟩
  · rcases readUnit_of_result_error htext with hcut | hresult
    · cases hcut
    · exact herror _ hresult text rfl
  · obtain ⟨hresult, rfl⟩ := readUnit_of_result_ok hindex
    have progress := hok () hresult
    refine ⟨fun p hp => ?_, fun key id a hl he hkey => ?_⟩
    · obtain ⟨⟨id, ha⟩, hnames⟩ := progress.begun p _ (filled_of_mem hp)
      obtain ⟨_, hl, a, he⟩ := Index.aggregateAt?_eq_some.1 ha
      refine ⟨id, a, hl, he, ?_⟩
      rw [fieldNames_of_lookup hl, fieldsOf_of_aggregate he] at hnames
      exact hnames
    · have hnames := progress.others key fun q names hq => hkey q (progress.reached q names hq)
      rw [fieldNames_of_lookup hl, fieldsOf_of_aggregate he] at hnames
      exact List.map_eq_nil_iff.1 hnames

/-- A structure that is declared before and defined after one that points to it:
`struct b; struct a { struct b *link; struct { int x; } in; int y; }; struct b { struct a inner; };` -/
def linkedPair : ParsedUnit where
  files := #["pair.h"]
  tokens := #[]
  cursors := #[
    { Cursor.missing with
      kind := .structDecl, spelling := "b", location := ⟨some 0, 0, 1⟩, type := some 0 },
    { Cursor.missing with
      kind := .structDecl, spelling := "a", location := ⟨some 0, 10, 2⟩, type := some 2
      children := [2, 3, 5, 6], isDefinition := true },
    { Cursor.missing with
      kind := .fieldDecl, spelling := "link", location := ⟨some 0, 31, 2⟩, type := some 1 },
    { Cursor.missing with
      kind := .structDecl, location := ⟨some 0, 37, 2⟩, type := some 3, children := [4]
      isDefinition := true, isAnonymous := true },
    { Cursor.missing with
      kind := .fieldDecl, spelling := "x", location := ⟨some 0, 50, 2⟩, type := some 4 },
    { Cursor.missing with
      kind := .fieldDecl, spelling := "in", location := ⟨some 0, 55, 2⟩, type := some 3 },
    { Cursor.missing with
      kind := .fieldDecl, spelling := "y", location := ⟨some 0, 63, 2⟩, type := some 4 },
    { Cursor.missing with
      kind := .structDecl, spelling := "b", location := ⟨some 0, 69, 3⟩, canonical := some 0
      type := some 0, children := [8], isDefinition := true },
    { Cursor.missing with
      kind := .fieldDecl, spelling := "inner", location := ⟨some 0, 89, 3⟩, type := some 2 }]
  types := #[
    { SourceType.missing with kind := .record, spelling := "struct b", declaration := some 7 },
    { SourceType.missing with kind := .pointer, spelling := "struct b *", pointee := some 0 },
    { SourceType.missing with kind := .record, spelling := "struct a", declaration := some 1 },
    { SourceType.missing with kind := .record, spelling := "struct (anonymous)", declaration := some 3 },
    { SourceType.missing with kind := .int, spelling := "int" }]
  top := [0, 1, 7]
  includes := []
  diagnostics := []

/-- The structure that is mentioned first gets its field in the end. -/
theorem read_fields_linkedPair :
    let config : Config :=
      ⟨Settings.minimal "pair" [.path "pair.h"], by decide, by simp [Settings.minimal]⟩
    let result := (read config linkedPair ["pair.h"]).result
    Forest linkedPair ["pair.h"] ∧ Resolver.DeclaresTypes linkedPair ∧
      (∀ p ∈ definitions linkedPair ["pair.h"], ∀ q ∈ definitions linkedPair ["pair.h"],
        linkedPair.canonicalCursor p = linkedPair.canonicalCursor q → p = q) ∧
      result.toOption.map (fun index => index.entities.map fun e => e.fields.length) =
        some [1, 3, 1] ∧
      (∀ text, result ≠ .error (.duplicateDefinition text)) ∧
      ∀ index, result = .ok index → ∃ id a, index.lookup (.type 0) = some id ∧
        index.entity? id = some (.aggregate a) ∧
        a.fields.map (·.name) = [(linkedPair.cursor 8).name config.prefixes] := by
  have forest : Forest linkedPair ["pair.h"] :=
    Forest.of_rows (by decide) (by decide) (by decide)
  have declares : Resolver.DeclaresTypes linkedPair := .of_rows (by decide)
  have single : ∀ p ∈ definitions linkedPair ["pair.h"], ∀ q ∈ definitions linkedPair ["pair.h"],
      linkedPair.canonicalCursor p = linkedPair.canonicalCursor q → p = q := by
    have hrows : ∀ p < 9, ∀ q < 9, IsDefinition linkedPair p → IsDefinition linkedPair q →
        linkedPair.canonicalCursor p = linkedPair.canonicalCursor q → p = q := by decide
    intro p hp q hq
    exact hrows p (lt_of_isDefinition hp.1) q (lt_of_isDefinition hq.1) hp.1 hq.1
  have last : 7 ∈ definitions linkedPair ["pair.h"] := ⟨by decide, [2], .top rfl⟩
  have hfields := read_fields ⟨Settings.minimal "pair" [.path "pair.h"], by decide,
    by simp [Settings.minimal]⟩ linkedPair ["pair.h"] forest declares single
  refine ⟨forest, declares, single, by decide +kernel, hfields.1, fun index hindex => ?_⟩
  exact (hfields.2 index hindex).1 7 last

end HeaderIndex.Reader
