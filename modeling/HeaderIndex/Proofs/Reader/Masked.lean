import HeaderIndex.Proofs.Resolve.Masked
import HeaderIndex.Reader.Run

/-!
# Reading under other prefixes

Two readings of one unit are compared here, under prefixes that leave words of the same names, and
under any two blocking lists.

* `Reader.showing` — what shows of the end of an action: its result or the sort of its failure, the
  warnings, and the masked index.
* `Agree` — two actions show the same from states that show the same.  One rule for each way to build
  an action.
* `agree_readTagWithin`, `agree_readFunction`, `agree_readTypedef`, `agree_readMacro` — the readers of
  each sort of declaration agree.
* `read_masked` — and hence two readings come to outcomes that show the same.
-/

namespace HeaderIndex.Reader

/-- An error that tells nothing of the entities that it is about. -/
def ReadError.masked : ReadError → ReadError
  | .duplicateDefinition _ => .duplicateDefinition ""
  | .keyTaken key _ => .keyTaken key ""
  | error => error

theorem ReadError.masked_duplicateDefinition (aggregate : String) :
    (duplicateDefinition aggregate).masked = duplicateDefinition "" := rfl

theorem ReadError.masked_keyTaken (key entity : String) :
    (keyTaken key entity).masked = keyTaken key "" := rfl

/-- A state of which the masked index shows, the warnings, and where the reading was broken off. -/
def State.masked (s : State) : State := ⟨s.index.masked, [], s.warnings, s.cut⟩

/-- An outcome of which the warnings show and the masked index or error. -/
def Outcome.masked (outcome : Outcome) : Outcome :=
  ⟨(outcome.result.map Index.masked).mapError ReadError.masked, outcome.warnings⟩

variable {α β γ δ : Type} {view : α → γ} {first second : Action α}

/-- What shows of the end of an action, given what shows of its result. -/
def showing (view : α → γ) (ending : Except ReadError α × State) : Except ReadError γ × State :=
  ((ending.1.map view).mapError ReadError.masked, ending.2.masked)

/-- Whether two actions show the same from states that show the same. -/
def Agree (view : α → γ) (first second : Action α) : Prop :=
  ∀ s t, s.masked = t.masked → showing view (first s) = showing view (second t)

theorem showing_error (error : ReadError) (s : State) :
    showing view (.error error, s) = (.error error.masked, s.masked) := rfl

theorem State.masked_eq_iff {s t : State} :
    s.masked = t.masked ↔
      s.index.masked = t.index.masked ∧ s.warnings = t.warnings ∧ s.cut = t.cut := by
  simp [masked]

theorem Outcome.masked_eq_iff {o o' : Outcome} : o.masked = o'.masked ↔
    (o.result.map Index.masked).mapError ReadError.masked =
      (o'.result.map Index.masked).mapError ReadError.masked ∧ o.warnings = o'.warnings := by
  simp [masked]

theorem State.masked_goTo {s t : State} (h : s.masked = t.masked) {i j : Index}
    (hij : i.masked = j.masked) :
    ({ s with index := i, earlier := s.index :: s.earlier } : State).masked =
      ({ t with index := j, earlier := t.index :: t.earlier } : State).masked :=
  State.masked_eq_iff.2 ⟨hij, (State.masked_eq_iff.1 h).2⟩

/-! ## Rules -/

section Rules

theorem Agree.pure {a b : α} (h : view a = view b) :
    Agree view (Pure.pure a : Action α) (Pure.pure b) :=
  fun _ _ hst => Prod.ext (congrArg Except.ok h) hst

theorem Agree.fail {error other : ReadError} (h : error.masked = other.masked) :
    Agree view (Action.fail error) (Action.fail other) :=
  fun _ _ hst => Prod.ext (congrArg Except.error h) hst

theorem Agree.index : Agree Index.masked Action.index Action.index :=
  fun _ _ hst => Prod.ext (congrArg Except.ok (State.masked_eq_iff.1 hst).1) hst

theorem Agree.warn (warnings : List Warning) :
    Agree id (Action.warn warnings) (Action.warn warnings) := by
  intro s t hst
  obtain ⟨hindex, hwarnings, hcut⟩ := State.masked_eq_iff.1 hst
  exact Prod.ext rfl
    (State.masked_eq_iff.2 ⟨hindex, congrArg (warnings.reverse ++ ·) hwarnings, hcut⟩)

theorem Agree.breakOff (reason : Option (List Warning)) :
    Agree id (Action.breakOff reason) (Action.breakOff reason) := by
  intro s t hst
  obtain ⟨hindex, hwarnings, hcut⟩ := State.masked_eq_iff.1 hst
  refine Prod.ext rfl (State.masked_eq_iff.2 ⟨hindex, hwarnings, ?_⟩)
  show (s.cut <|> _) = (t.cut <|> _)
  rw [hwarnings, hcut]

theorem Agree.update {f g : Index → Index}
    (h : ∀ i j, i.masked = j.masked → (f i).masked = (g j).masked) :
    Agree id (Action.update f) (Action.update g) :=
  fun _ _ hst => Prod.ext rfl (State.masked_goTo hst (h _ _ (State.masked_eq_iff.1 hst).1))

theorem Agree.add {e f : Entity} (h : e.masked = f.masked) (key : Key) :
    Agree id (Action.add key e) (Action.add key f) := by
  intro s t hst
  obtain ⟨hid, hindex⟩ := Index.add_eq_of_masked (State.masked_eq_iff.1 hst).1 h key
  exact Prod.ext (congrArg Except.ok hid) (State.masked_goTo hst hindex)

theorem Agree.placeholder {name other : Name} (h : name.masked = other.masked) (key : Key)
    (isUnion : Bool) :
    Agree id (Action.placeholder key name isUnion) (Action.placeholder key other isUnion) := by
  intro s t hst
  have hknown := (Index.masked_placeholder s.index key name isUnion).trans <|
    (by rw [h, (State.masked_eq_iff.1 hst).1] :
      _ = t.index.masked.placeholder key other.masked isUnion).trans
    (Index.masked_placeholder t.index key other isUnion).symm
  unfold Action.placeholder
  revert hknown
  rcases s.index.placeholder key name isUnion with conflict | known <;>
    rcases t.index.placeholder key other isUnion with conflict' | known'
  all_goals intro hknown
  · cases hknown
    simp only [showing_error, ReadError.masked_keyTaken, hst]
  · cases hknown
  · cases hknown
  · obtain ⟨hid, hindex⟩ := Prod.mk.inj (Except.ok.inj hknown)
    exact Prod.ext (congrArg Except.ok hid) (State.masked_goTo hst hindex)

theorem Agree.bind {next next' : α → Action β} {view' : β → δ} (h : Agree view first second)
    (hn : ∀ a b, view a = view b → Agree view' (next a) (next' b)) :
    Agree view' (first >>= next) (second >>= next') := by
  intro s t hst
  have hfirst := h s t hst
  show showing view' (Action.bind first next s) = showing view' (Action.bind second next' t)
  unfold Action.bind
  revert hfirst
  rcases first s with ⟨error | a, s'⟩ <;> rcases second t with ⟨error' | b, t'⟩
  all_goals
    intro hfirst
    obtain ⟨hresult, hstate⟩ := Prod.mk.inj hfirst
  · exact Prod.ext (congrArg Except.error (Except.error.inj hresult)) hstate
  · cases hresult
  · cases hresult
  · exact hn a b (Except.ok.inj hresult) s' t' hstate

theorem Agree.ite {p q : Prop} [Decidable p] [Decidable q] (hpq : p ↔ q) {third fourth : Action α}
    (h : Agree view first second) (h' : Agree view third fourth) :
    Agree view (if p then first else third) (if q then second else fourth) := by
  by_cases hp : p
  · rw [if_pos hp, if_pos (hpq.1 hp)]
    exact h
  · rw [if_neg hp, if_neg fun hq => hp (hpq.2 hq)]
    exact h'

theorem Agree.each {items : List β} {step step' : β → Action Unit}
    (h : ∀ item ∈ items, Agree id (step item) (step' item)) :
    Agree id (Action.each items step) (Action.each items step') := by
  induction items with
  | nil => exact Agree.pure rfl
  | cons item rest ih =>
    refine Agree.bind (h item List.mem_cons_self) fun _ _ _ => ih fun other hother => ?_
    exact h other (List.mem_cons_of_mem _ hother)

theorem Agree.collect {items : List β} {step step' : β → Action α}
    (h : ∀ item ∈ items, Agree view (step item) (step' item)) :
    Agree (List.map view) (Action.collect items step) (Action.collect items step') := by
  induction items with
  | nil => exact Agree.pure rfl
  | cons item rest ih =>
    have hrest := ih fun other hother => h other (List.mem_cons_of_mem _ hother)
    refine Agree.bind (h item List.mem_cons_self) fun a b hab => ?_
    refine Agree.bind hrest fun as bs habs => ?_
    exact Agree.pure (by rw [List.map_cons, List.map_cons, hab, habs])

theorem Agree.inDeclaration (place : Place) (h : Agree view first second) :
    Agree view (Action.inDeclaration place first) (Action.inDeclaration place second) := by
  intro s t hst
  have hends := h s t hst
  unfold Action.inDeclaration
  revert hends
  rcases first s with ⟨error | a, s'⟩ <;> rcases second t with ⟨error' | b, t'⟩
  all_goals
    intro hends
    obtain ⟨hresult, hstate⟩ := Prod.mk.inj hends
  · have herror : error.masked = error'.masked := Except.error.inj hresult
    -- only type errors are given a place, and these show as they are
    cases error with
    | type place? cause =>
      cases error' with
      | type place' cause' =>
        obtain ⟨rfl, rfl⟩ := ReadError.type.inj herror
        cases place? with
        | none => exact Prod.ext rfl hstate
        | some _ => exact hends
      | _ => cases herror
    | _ =>
      cases error' with
      | type place' cause' => cases herror
      | _ => exact hends
  · cases hresult
  · cases hresult
  · exact hends

end Rules

section NamesAlike

variable {r : Resolver} {prefixes : List String}

theorem Agree.resolution {resolution other : Resolution CType}
    (h : ∀ i j, i.masked = j.masked → Resolver.showing (resolution i) = Resolver.showing (other j)) :
    Agree CType.masked (Action.resolve resolution) (Action.resolve other) := by
  intro s t hst
  have hends := h s.index t.index (State.masked_eq_iff.1 hst).1
  unfold Action.resolve
  revert hends
  rcases resolution s.index with ⟨error | type, i⟩ <;> rcases other t.index with ⟨error' | type', j⟩
  all_goals
    intro hends
    obtain ⟨hresult, hindex⟩ := Prod.mk.inj hends
  · have herror : error = error' := Except.error.inj hresult
    exact Prod.ext (congrArg (fun e => Except.error (ReadError.type none e)) herror)
      (State.masked_goTo hst hindex)
  · cases hresult
  · cases hresult
  · exact Prod.ext (congrArg Except.ok (Except.ok.inj hresult)) (State.masked_goTo hst hindex)

theorem agree_modify {f g k : Entity → Entity} (hf : ∀ e, (f e).masked = k e.masked)
    (hg : ∀ e, (g e).masked = k e.masked) (owner : EntityId) :
    Agree id (Action.update fun i => i.modify owner f) (Action.update fun i => i.modify owner g) :=
  .update fun i j hij => by rw [Index.masked_modify hf, Index.masked_modify hg, hij]

theorem agree_adoptName {name other : Name} (h : name.masked = other.masked) (owner : EntityId) :
    Agree id (Action.update fun i => i.adoptName owner name)
      (Action.update fun i => i.adoptName owner other) :=
  .update fun i j hij => by rw [Index.masked_adoptName, Index.masked_adoptName, hij, h]

theorem agree_donateName {name other : Name} (h : name.masked = other.masked) (type : TypeRef) :
    Agree id (donateName r type name) (donateName (r.withPrefixes prefixes) type other) := by
  refine Agree.bind Agree.index fun i j hij => ?_
  dsimp only
  rw [Index.get?_eq_of_masked hij]
  split
  · exact agree_adoptName h _
  · exact Agree.pure rfl

/-! ## Parts of the readers -/

/-- A field under a name and a type that show the same shows the same. -/
theorem agree_addField {name other : Name} (hname : name.masked = other.masked) {type type' : CType}
    (htype : type.masked = type'.masked) (description : List String) (owner : EntityId) :
    Agree id
      (Action.update fun i => i.modify owner (Entity.mapAggregate fun a =>
        { a with fields := a.fields ++ [⟨name, type, description⟩] }))
      (Action.update fun i => i.modify owner (Entity.mapAggregate fun a =>
        { a with fields := a.fields ++ [⟨other, type', description⟩] })) := by
  refine agree_modify (Entity.masked_mapAggregate (g := fun a =>
    { a with fields := a.fields ++ [⟨other.masked, type'.masked, description⟩] }) fun a => ?_)
    (Entity.masked_mapAggregate fun a => ?_) owner
  · simp only [Aggregate.masked, List.map_append, List.map_cons, List.map_nil, Field.masked, hname,
      htype]
  · simp only [Aggregate.masked, List.map_append, List.map_cons, List.map_nil, Field.masked]

/-- The description of an aggregate shows as it is. -/
theorem agree_describe (comment : List String) (owner : EntityId) :
    Agree id
      (Action.update fun i => i.modify owner (Entity.mapAggregate fun a =>
        { a with description := a.description ++ comment }))
      (Action.update fun i => i.modify owner (Entity.mapAggregate fun a =>
        { a with description := a.description ++ comment })) := by
  have hmasked : ∀ e, (Entity.mapAggregate
      (fun a => { a with description := a.description ++ comment }) e).masked =
      e.masked.mapAggregate fun a => { a with description := a.description ++ comment } :=
    Entity.masked_mapAggregate fun a => rfl
  exact agree_modify hmasked hmasked owner

/-- Constants read so far under masked names. -/
def Enumerators.masked (read : Enumerators) : Enumerators :=
  { read with constants := read.constants.map Enumerator.masked }

theorem Enumerators.masked_add {unit : ParsedUnit} {others : List String} {texts : Comment.Texts}
    {read other : Enumerators} {cursor : Cursor} (h : read.masked = other.masked)
    (hname : (cursor.name prefixes).masked = (cursor.name others).masked) :
    (read.add unit prefixes texts cursor).masked = (other.add unit others texts cursor).masked := by
  obtain ⟨constants, warnings, next, previous⟩ := read
  obtain ⟨constants', warnings', next', previous'⟩ := other
  obtain ⟨hconstants, rfl, rfl, rfl⟩ := Enumerators.mk.inj h
  unfold add
  dsimp only
  split
  · simp only [masked, List.map_append, List.map_cons, List.map_nil, Enumerator.masked,
      hname] at hconstants ⊢
    rw [hconstants]
  · simp only [masked] at hconstants ⊢
    rw [hconstants]

/-- The enumeration under a key and its place. -/
def enumerationAt? (i : Index) (key : Key) : Option (EntityId × Enumeration) :=
  (i.get? key).bind fun found =>
    ((i.entity? found).bind Entity.enumeration?).map fun e => (found, e)

/-- The same place holds an enumeration that looks the same, or there is none. -/
theorem enumerationAt?_eq_of_masked {i j : Index} (h : i.masked = j.masked) (key : Key) :
    (enumerationAt? i key).map (fun found => (found.1, found.2.masked)) =
      (enumerationAt? j key).map fun found => (found.1, found.2.masked) := by
  unfold enumerationAt?
  rw [Index.get?_eq_of_masked h]
  cases j.get? key with
  | none => rfl
  | some found =>
    have hentity := Index.entity?_eq_of_masked h found
    revert hentity
    simp only [Option.bind_some]
    rcases i.entity? found with _ | e <;> rcases j.entity? found with _ | f
    all_goals intro hentity
    · rfl
    · cases hentity
    · cases hentity
    · have hmasked := congrArg Entity.enumeration? (Option.some.inj hentity)
      rw [Entity.enumeration?_masked, Entity.enumeration?_masked] at hmasked
      have hpair := congrArg (Option.map fun e => (found, e)) hmasked
      simpa [Function.comp_def] using hpair

theorem masked_parameterOf {i j : Index} (hij : i.masked = j.masked) {name other : Name}
    (hname : name.masked = other.masked) {type type' : CType} (htype : type.masked = type'.masked)
    (isArray : Bool) :
    (parameterOf i name type isArray).masked = (parameterOf j other type' isArray).masked := by
  have hempty := (Name.masked_eq_iff.1 hname).2
  have hchosen : (if name.isEmpty then i.nameOf type else name).masked =
      (if other.isEmpty then j.nameOf type' else other).masked := by
    rw [hempty]
    split
    · exact Index.nameOf_eq_of_masked hij htype
    · exact hname
  simp only [parameterOf, Parameter.masked, hchosen, htype]

/-- Texts are found by spellings, which show. -/
theorem describe_masked (texts : Comment.Texts) (parameters : List Parameter) :
    (describe texts parameters).map Parameter.masked =
      describe texts (parameters.map Parameter.masked) :=
  map_describe (f := Parameter.masked) (fun _ => rfl) (fun _ _ => rfl) texts parameters

/-- Whether an action does nothing that shows. -/
def Hidden (action : Action Unit) : Prop := ∀ s, showing id (action s) = (.ok (), s.masked)

theorem Hidden.agree {action other : Action Unit} (h : Hidden action) (h' : Hidden other) :
    Agree id action other := by
  intro s t hst
  rw [h, h', hst]

theorem Hidden.bind_index {next : Index → Action Unit} (h : ∀ i, Hidden (next i)) :
    Hidden (Action.index >>= next) := fun s => h s.index s

theorem hidden_addMethod (owner : EntityId) (method : Method) :
    Hidden (Action.update fun i => i.modify owner (Entity.mapAggregate fun a =>
      { a with methods := a.methods ++ [method] })) := by
  intro s
  have hmasked := Index.masked_modify_hidden (f := Entity.mapAggregate fun a =>
    { a with methods := a.methods ++ [method] }) (fun e => by cases e <;> rfl) s.index owner
  exact Prod.ext rfl (State.masked_eq_iff.2 ⟨hmasked, rfl, rfl⟩)

/-- Methods do not show, so it does not show either which functions become methods of what. -/
theorem hidden_groupMethod (r : Resolver) (function : EntityId) (name : Name) (first : TypeRef) :
    Hidden (groupMethod r function name first) := by
  refine Hidden.bind_index fun i => ?_
  split
  · split
    · exact hidden_addMethod _ _
    · exact fun _ => rfl
  · exact fun _ => rfl

section

variable (hnames : NamesAlike r.unit r.prefixes prefixes)
include hnames

theorem agree_resolve (type : TypeRef) :
    Agree CType.masked (Action.resolve (r.resolve type))
      (Action.resolve ((r.withPrefixes prefixes).resolve type)) :=
  .resolution fun _ _ hij => Resolver.showing_resolve hnames hij type

theorem agree_resolveMember (type : TypeRef) :
    Agree CType.masked (Action.resolve (r.resolveMember type))
      (Action.resolve ((r.withPrefixes prefixes).resolveMember type)) :=
  .resolution fun _ _ hij => Resolver.showing_resolveMember hnames hij type

/-! ## Enumerations -/

theorem masked_enumerators (texts : Comment.Texts) (cursor : Cursor) :
    (enumerators r.unit r.prefixes texts cursor).masked =
      (enumerators r.unit prefixes texts cursor).masked := by
  have hfold : ∀ (children : List Cursor), (∀ c ∈ children, ∃ position, r.unit.cursor position = c) →
      ∀ read other : Enumerators, read.masked = other.masked →
      (children.foldl (Enumerators.add r.unit r.prefixes texts) read).masked =
        (children.foldl (Enumerators.add r.unit prefixes texts) other).masked := by
    intro children
    induction children with
    | nil => exact fun _ _ _ h => h
    | cons child rest ih =>
      intro hunit read other h
      obtain ⟨position, rfl⟩ := hunit child List.mem_cons_self
      exact ih (fun c hc => hunit c (List.mem_cons_of_mem _ hc)) _ _
        (Enumerators.masked_add h (hnames position))
  refine hfold _ (fun c hc => ?_) _ _ rfl
  obtain ⟨position, -, hposition⟩ := List.mem_map.1 (List.mem_filter.1 hc).1
  exact ⟨position, hposition⟩

theorem agree_readEnumeration {cursor : Cursor}
    (hname : (cursor.name r.prefixes).masked = (cursor.name prefixes).masked)
    (comment : List String) :
    Agree id (readEnumeration r cursor comment)
      (readEnumeration (r.withPrefixes prefixes) cursor comment) := by
  have hread := masked_enumerators hnames (Comment.splitEnum comment).constants cursor
  unfold readEnumeration
  refine Agree.bind Agree.index fun i j hij => ?_
  dsimp only
  have hexisting := enumerationAt?_eq_of_masked hij (r.unit.typeKey cursor.type)
  rw [← enumerationAt?, ← enumerationAt?]
  revert hread hexisting
  generalize enumerators r.unit r.prefixes (Comment.splitEnum comment).constants cursor = read
  generalize enumerators r.unit prefixes (Comment.splitEnum comment).constants cursor = other
  rcases enumerationAt? i (r.unit.typeKey cursor.type) with _ | ⟨found, e⟩ <;>
    rcases enumerationAt? j (r.unit.typeKey cursor.type) with _ | ⟨found', f⟩
  all_goals
    intro hread hexisting
    obtain ⟨constants, warnings, next, previous⟩ := read
    obtain ⟨constants', warnings', next', previous'⟩ := other
    obtain ⟨hconstants, rfl, rfl, rfl⟩ := Enumerators.mk.inj hread
  · refine Agree.ite Iff.rfl (Agree.pure rfl) (Agree.bind (Agree.breakOff _) fun _ _ _ => ?_)
    refine Agree.bind (Agree.warn _) fun _ _ _ => ?_
    refine Agree.bind (Agree.add ?_ _) fun _ _ _ => Agree.pure rfl
    simp only [Entity.masked, Enumeration.masked, hname]
    rw [hconstants]
  · cases hexisting
  · cases hexisting
  · obtain ⟨rfl, hmasked⟩ := Prod.mk.inj (Option.some.inj hexisting)
    have hfilled : e.constants = [] ↔ f.constants = [] := by
      have hlists : e.masked.constants = f.masked.constants := by rw [hmasked]
      rw [← List.map_eq_nil_iff (f := Enumerator.masked), ← List.map_eq_nil_iff (l := f.constants)]
      exact Iff.of_eq (congrArg (· = []) hlists)
    refine Agree.ite (by simp [hfilled]) (Agree.pure rfl)
      (Agree.bind (Agree.breakOff _) fun _ _ _ => ?_)
    refine Agree.bind (Agree.warn _) fun _ _ _ => ?_
    refine Agree.bind (agree_adoptName hname _) fun _ _ _ => ?_
    refine agree_modify (Entity.masked_mapEnumeration (g := fun e => { e with
      constants := constants'.map Enumerator.masked
      description := (Comment.splitEnum comment).description }) fun e => ?_)
      (Entity.masked_mapEnumeration fun e => rfl) _
    simp only [Enumeration.masked]
    rw [hconstants]

/-! ## Structures and unions -/

theorem agree_readMember {read read' : Nat → Action Unit}
    (hread : ∀ inner, Agree id (read inner) (read' inner)) (owner : EntityId) (member : Member) :
    Agree id (readMember r read owner member)
      (readMember (r.withPrefixes prefixes) read' owner member) := by
  cases member with
  | nested inner => exact hread inner
  | field nested child description =>
    have hfield : Agree id
        (do
          let type ← Action.resolve (r.resolveMember (r.unit.cursor child).type)
          Action.update fun index => index.modify owner (Entity.mapAggregate fun a =>
            { a with fields := a.fields ++
              [⟨(r.unit.cursor child).name r.prefixes, type, description⟩] }))
        (do
          let type ← Action.resolve
            ((r.withPrefixes prefixes).resolveMember (r.unit.cursor child).type)
          Action.update fun index => index.modify owner (Entity.mapAggregate fun a =>
            { a with fields := a.fields ++
              [⟨(r.unit.cursor child).name prefixes, type, description⟩] })) := by
      refine Agree.bind (agree_resolveMember hnames _) fun type type' htype => ?_
      exact agree_addField (hnames child) htype description owner
    cases nested with
    | none => exact hfield
    | some inner =>
      refine Agree.bind (hread inner) fun _ _ _ => Agree.bind Agree.index fun i j hij => ?_
      refine Agree.bind (agree_donateName ?_ _) fun _ _ _ => hfield
      exact Name.masked_append (nameOf_eq_of_masked hij owner) (hnames child)

theorem agree_readAggregate {read read' : Nat → Action Unit}
    (hread : ∀ inner, Agree id (read inner) (read' inner)) {cursor : Cursor}
    (hname : (cursor.name r.prefixes).masked = (cursor.name prefixes).masked)
    (comment : List String) :
    Agree id (readAggregate r read cursor comment)
      (readAggregate (r.withPrefixes prefixes) read' cursor comment) := by
  unfold readAggregate
  refine Agree.bind (Agree.placeholder hname _ _) fun owner owner' howner => ?_
  cases howner
  refine Agree.bind (agree_adoptName hname owner) fun _ _ _ => ?_
  refine Agree.ite Iff.rfl (Agree.pure rfl) (Agree.bind Agree.index fun i j hij => ?_)
  unfold definitionError?
  by_cases hfields : fieldsOf i owner = []
  · rw [if_neg (not_not_intro hfields),
      if_neg (not_not_intro ((fieldsOf_eq_nil_of_masked hij owner).1 hfields))]
    refine Agree.bind (agree_describe comment owner) fun _ _ _ => ?_
    exact Agree.each fun member _ => agree_readMember hnames hread owner member
  · rw [if_pos hfields, if_pos (mt (fieldsOf_eq_nil_of_masked hij owner).2 hfields)]
    refine Agree.fail ?_
    rw [ReadError.masked_duplicateDefinition, ReadError.masked_duplicateDefinition]

theorem agree_readTagWithin (levels position : Nat) (comment : List String) :
    Agree id (readTagWithin r levels position comment)
      (readTagWithin (r.withPrefixes prefixes) levels position comment) := by
  induction levels generalizing position comment with
  | zero => exact Agree.fail rfl
  | succ levels ih =>
    unfold readTagWithin
    refine Agree.ite Iff.rfl (agree_readEnumeration hnames (hnames position) comment) ?_
    exact agree_readAggregate hnames (fun inner => ih inner []) (hnames position) comment

/-! ## Functions, callbacks and macros -/

theorem agree_readParameter {cursor : Cursor}
    (hname : (cursor.name r.prefixes).masked = (cursor.name prefixes).masked) :
    Agree Parameter.masked (readParameter r cursor)
      (readParameter (r.withPrefixes prefixes) cursor) := by
  refine Agree.bind (agree_resolve hnames _) fun type type' htype => ?_
  refine Agree.bind Agree.index fun i j hij => Agree.pure ?_
  exact masked_parameterOf hij hname htype _

theorem name_masked_of_mem_parameterCursors {cursor declared : Cursor}
    (h : declared ∈ parameterCursors r.unit cursor) :
    (declared.name r.prefixes).masked = (declared.name prefixes).masked := by
  obtain ⟨position, -, rfl⟩ := List.mem_map.1 (List.mem_filter.1 h).1
  exact hnames position

theorem agree_readFunction (config config' : Config) (position : Nat) (comment : List String) :
    Agree id (readFunction config r position comment)
      (readFunction config' (r.withPrefixes prefixes) position comment) := by
  unfold readFunction
  refine Agree.bind Agree.index fun i j hij => ?_
  refine Agree.ite (by rw [Index.contains_eq_of_masked hij]) (Agree.pure rfl) ?_
  refine Agree.bind (agree_resolve hnames _) fun result result' hresult => ?_
  refine Agree.bind (Agree.collect fun declared hdeclared => agree_readParameter hnames
    (name_masked_of_mem_parameterCursors hnames hdeclared)) fun parameters parameters' hparameters => ?_
  refine Agree.bind (Agree.add ?_ _) fun function function' hfunction => ?_
  · simp only [Entity.masked, Callable.masked, hnames position, hresult, describe_masked, hparameters]
  cases hfunction
  dsimp only
  split
  · exact Agree.pure rfl
  · exact (hidden_groupMethod _ _ _ _).agree (hidden_groupMethod _ _ _ _)

theorem agree_readCallbackParameter {argument : TypeRef × Option Cursor}
    (hname : ∀ declared, argument.2 = some declared →
      (declared.name r.prefixes).masked = (declared.name prefixes).masked) :
    Agree Parameter.masked (readCallbackParameter r argument)
      (readCallbackParameter (r.withPrefixes prefixes) argument) := by
  rcases argument with ⟨type, _ | declared⟩
  · refine Agree.bind (agree_resolve hnames type) fun type type' htype => ?_
    exact Agree.bind Agree.index fun i j hij => Agree.pure (masked_parameterOf hij rfl htype false)
  · refine Agree.bind (agree_resolve hnames declared.type) fun type type' htype => ?_
    refine Agree.bind Agree.index fun i j hij => Agree.pure ?_
    exact masked_parameterOf hij (hname declared rfl) htype false

theorem name_masked_of_mem_callbackArguments {function : SourceType} {cursor declared : Cursor}
    {type : TypeRef} (h : (type, some declared) ∈ callbackArguments r.unit function cursor) :
    (declared.name r.prefixes).masked = (declared.name prefixes).masked := by
  unfold callbackArguments at h
  dsimp only at h
  generalize (if function.kind = .functionPrototype then function.arguments else []) = types at h
  split at h
  · obtain ⟨found, hfound, heq⟩ := List.mem_map.1 (List.of_mem_zip h).2
    cases heq
    exact name_masked_of_mem_parameterCursors hnames hfound
  · obtain ⟨_, -, heq⟩ := List.mem_map.1 h
    cases heq

theorem agree_readTypedef {cursor : Cursor}
    (hname : (cursor.name r.prefixes).masked = (cursor.name prefixes).masked)
    (comment : List String) :
    Agree id (readTypedef r cursor comment) (readTypedef (r.withPrefixes prefixes) cursor comment) := by
  unfold readTypedef
  refine Agree.ite Iff.rfl ?_ ?_
  · unfold readCallback
    refine Agree.bind (agree_resolve hnames _) fun result result' hresult => ?_
    refine Agree.bind (Agree.collect fun argument hargument => agree_readCallbackParameter hnames ?_)
      fun parameters parameters' hparameters => ?_
    · rintro declared hdeclared
      obtain ⟨type, second⟩ := argument
      cases hdeclared
      exact name_masked_of_mem_callbackArguments hnames hargument
    refine Agree.bind (Agree.add ?_ _) fun _ _ _ => Agree.pure rfl
    simp only [Entity.masked, Callable.masked, hname, hresult, describe_masked, hparameters]
  · split
    · exact agree_donateName hname _
    · exact Agree.pure rfl

omit hnames in
theorem agree_readMacro {cursor : Cursor}
    (hname : (cursor.name r.prefixes).masked = (cursor.name prefixes).masked) :
    Agree id (readMacro r cursor) (readMacro (r.withPrefixes prefixes) cursor) := by
  unfold readMacro
  refine Agree.ite Iff.rfl (Agree.pure rfl) (Agree.bind Agree.index fun i j hij => ?_)
  refine Agree.ite (by rw [Index.contains_eq_of_masked hij]) (Agree.pure rfl) ?_
  refine Agree.bind (Agree.breakOff _) fun _ _ _ => ?_
  dsimp only
  split
  · refine Agree.bind (Agree.add ?_ _) fun _ _ _ => Agree.pure rfl
    simp only [Entity.masked, Constant.masked, hname]
  · exact Agree.warn _

/-! ## Reading a unit -/

theorem agree_readDeclaration (config config' : Config) (position : Nat) (comment : List String) :
    Agree id (readDeclaration config r position comment)
      (readDeclaration config' (r.withPrefixes prefixes) position comment) := by
  unfold readDeclaration
  dsimp only
  split
  · exact agree_readTagWithin hnames _ position comment
  · exact agree_readTagWithin hnames _ position comment
  · exact agree_readTagWithin hnames _ position comment
  · exact agree_readFunction hnames config config' position comment
  · exact agree_readTypedef hnames (hnames position) comment
  · exact agree_readMacro (hnames position)
  · exact Agree.pure rfl

end

end NamesAlike

/-- Endings that show the same are outcomes that show the same. -/
theorem masked_of_showing {result result' : Except ReadError Unit} {s t : State}
    (h : showing id (result, s) = showing id (result', t)) :
    (Outcome.of result s).masked = (Outcome.of result' t).masked := by
  obtain ⟨hresult, hstate⟩ := Prod.mk.inj h
  obtain ⟨hindex, hwarnings, hcut⟩ := State.masked_eq_iff.1 hstate
  have hwarned : s.warnings.reverse = t.warnings.reverse := congrArg List.reverse hwarnings
  unfold Outcome.of
  rw [hcut]
  cases t.cut with
  | some warnings => rfl
  | none =>
    cases result <;> cases result'
    · exact Outcome.masked_eq_iff.2 ⟨congrArg Except.error (Except.error.inj hresult), hwarned⟩
    · cases hresult
    · cases hresult
    · exact Outcome.masked_eq_iff.2 ⟨congrArg Except.ok hindex, hwarned⟩

/-- **Prefixes and the blocking list change nothing but what they name.**  If two configurations
leave words of the same spellings of a unit, two readings of it give the same warnings, and they fail
for the same sort of reason or their indexes are the same when masked: the same entities under the
same keys in the same order, with the same spellings, values, descriptions, fields, parameters and
types. -/
theorem read_masked (config config' : Config) {unit : ParsedUnit} (visible : List String)
    (hempty : ∀ position, (Name.split config.prefixes (unit.cursor position).spelling).isEmpty =
      (Name.split config'.prefixes (unit.cursor position).spelling).isEmpty) :
    (read config unit visible).masked = (read config' unit visible).masked := by
  have hnames : NamesAlike unit config.prefixes config'.prefixes :=
    fun position => Cursor.masked_name (hempty position)
  have hunit : Agree id (readUnit config unit visible) (readUnit config' unit visible) :=
    .each fun declaration _ => (agree_readDeclaration (r := ⟨unit, config.prefixes, visible⟩) hnames
      config config' _ _).inDeclaration _
  exact masked_of_showing (hunit .initial .initial rfl)

/-- A structure and a function that works on it:
`struct lib_pair { int x; }; void lib_pair_scale(struct lib_pair *);`. -/
def scaledPair : ParsedUnit where
  files := #["pair.h"]
  tokens := #[]
  cursors := #[
    { Cursor.missing with
      kind := .structDecl, spelling := "lib_pair", location := ⟨some 0, 7, 1⟩
      stop := ⟨some 0, 26, 1⟩, type := some 1, children := [1], isDefinition := true },
    { Cursor.missing with
      kind := .fieldDecl, spelling := "x", location := ⟨some 0, 22, 1⟩, type := some 2 },
    { Cursor.missing with
      kind := .functionDecl, spelling := "lib_pair_scale", location := ⟨some 0, 33, 2⟩
      stop := ⟨some 0, 66, 2⟩, result := some 0, children := [3] },
    { Cursor.missing with
      kind := .parameterDecl, location := ⟨some 0, 65, 2⟩, type := some 3 }]
  types := #[
    { SourceType.missing with kind := .void, spelling := "void" },
    { SourceType.missing with
      kind := .record, spelling := "struct lib_pair", declaration := some 0 },
    { SourceType.missing with kind := .int, spelling := "int" },
    { SourceType.missing with
      kind := .pointer, spelling := "struct lib_pair *", pointee := some 1 }]
  top := [0, 2]
  includes := []
  diagnostics := []

/-- Without prefixes the function is a method of the structure; with these two it is none, the words
of all names but that of the field are others, and so is what the nameless parameter is called. -/
theorem read_masked_scaledPair :
    let settings := Settings.minimal "pair" [.path "pair.h"]
    let plain : Config := ⟨settings, by decide, by simp [settings, Settings.minimal]⟩
    let config : Config :=
      ⟨{ settings with prefixes := ["lib_pair_", "lib_"], blocking := ["lib_pair_scale"] },
        by decide, by simp [settings, Settings.minimal]⟩
    let words := fun config => (readUnit config scaledPair ["pair.h"] .initial).2.index.entities.map
      (·.name.parts)
    let methods := fun config => (readUnit config scaledPair ["pair.h"] .initial).2.index.aggregates.map
      (·.methods.length)
    (∀ position, (Name.split config.prefixes (scaledPair.cursor position).spelling).isEmpty =
        (Name.split plain.prefixes (scaledPair.cursor position).spelling).isEmpty) ∧
      words config = [["pair"], ["scale"]] ∧ methods config = [0] ∧
      words plain = [["lib", "pair"], ["lib", "pair", "scale"]] ∧ methods plain = [1] ∧
      (read config scaledPair ["pair.h"]).masked = (read plain scaledPair ["pair.h"]).masked := by
  intro settings plain config words methods
  have hempty : ∀ position,
      (Name.split config.prefixes (scaledPair.cursor position).spelling).isEmpty =
        (Name.split plain.prefixes (scaledPair.cursor position).spelling).isEmpty := by
    intro position
    rcases Nat.lt_or_ge position scaledPair.cursors.size with hlt | hge
    · revert position
      decide
    · rw [ParsedUnit.cursor_of_size_le hge]
      rfl
  exact ⟨hempty, by decide +kernel, by decide +kernel, by decide +kernel, by decide +kernel,
    read_masked config plain ["pair.h"] hempty⟩

end HeaderIndex.Reader
