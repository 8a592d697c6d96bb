import HeaderIndex.Proofs.Reader.Listed

/-!
# Reading takes steps

* `Runs` — from states with a given property on, an action only takes steps of reading, and its
  results have a given property.  One rule for each way to build an action.
* `runs_readEnumeration`, `runs_readTagWithin`, `runs_readFunction`, `runs_readTypedef`,
  `runs_readMacro` — the reader of each sort of declaration takes steps, whatever it meets and
  however it ends.
* `readUnit_path` — so does reading a whole unit.
-/

namespace HeaderIndex.Reader

variable {α β : Type} {r : Resolver}

/-- From states with `P` on, an action only takes steps of reading, and a result of it has `Q`
together with the state after it. -/
def Runs (r : Resolver) (P : State → Prop) (action : Action α) (Q : α → State → Prop) : Prop :=
  ∀ s, P s → Path r s (action s).2 ∧ ∀ a, (action s).1 = .ok a → Q a (action s).2

/-! ## Rules -/

section Rules

variable {P : State → Prop} {Q : α → State → Prop} {action : Action α}

theorem Runs.pure {a : α} (h : ∀ s, P s → Q a s) :
    Runs r P (Pure.pure a : Action α) Q := by
  intro s hs
  refine ⟨.refl, fun b hb => ?_⟩
  cases hb
  exact h s hs

theorem Runs.fail (error : ReadError) : Runs r P (Action.fail error) Q :=
  fun _ _ => ⟨.refl, fun _ hb => nomatch hb⟩

theorem Runs.index : Runs r P Action.index fun index s => index = s.index ∧ P s := by
  intro s hs
  refine ⟨.refl, fun index hi => ?_⟩
  cases hi
  exact ⟨rfl, hs⟩

theorem Runs.bind {next : α → Action β} {Q' : β → State → Prop} (h : Runs r P action Q)
    (hn : ∀ a, Runs r (Q a) (next a) Q') : Runs r P (action >>= next) Q' := by
  intro s hs
  obtain ⟨path, hpost⟩ := h s hs
  rcases bind_cases action next s with ⟨a, t, ha, heq⟩ | ⟨error, t, he, heq⟩ <;> rw [heq]
  · rw [ha] at path hpost
    obtain ⟨path', hpost'⟩ := hn a t (hpost a rfl)
    exact ⟨path.trans path', hpost'⟩
  · rw [he] at path
    exact ⟨path, fun _ hb => nomatch hb⟩

theorem Runs.weaken {P' : State → Prop} {Q' : α → State → Prop} (h : Runs r P action Q)
    (hpre : ∀ s, P' s → P s) (hpost : ∀ a s, Q a s → Q' a s) :
    Runs r P' action Q' :=
  fun s hs => ⟨(h s (hpre s hs)).1, fun a ha => hpost a _ ((h s (hpre s hs)).2 a ha)⟩

theorem Runs.forget (h : Runs r P action Q) : Runs r P action fun _ _ => True :=
  h.weaken (fun _ hs => hs) fun _ _ _ => trivial

/-- What every state with `P` tells is known from the start. -/
theorem Runs.of_pre {p : Prop} (hp : ∀ s, P s → p) (h : p → Runs r P action Q) :
    Runs r P action Q :=
  fun s hs => h (hp s hs) s hs

/-- What is stable still holds after an action. -/
theorem Runs.frame {p : State → Prop} (h : Runs r P action Q) (hp : Stable r p) :
    Runs r (fun s => P s ∧ p s) action fun a s => Q a s ∧ p s :=
  fun s ⟨hs, hps⟩ => ⟨(h s hs).1, fun a ha => ⟨(h s hs).2 a ha, hp.path (h s hs).1 hps⟩⟩

theorem Runs.keeping {p : State → Prop} (h : Runs r (fun _ => True) action fun _ _ => True)
    (hp : Stable r p) : Runs r p action fun _ => p :=
  (h.frame hp).weaken (fun _ hs => ⟨trivial, hs⟩) fun _ _ hs => hs.2

/-- What an action keeps still holds after it. -/
theorem Runs.keeps {γ : Type} {obs : Index → γ} {v : γ} (h : Runs r P action Q)
    (hkeeps : Keeps obs action) :
    Runs r (fun s => P s ∧ obs s.index = v) action fun a s => Q a s ∧ obs s.index = v :=
  fun s ⟨hs, hv⟩ => ⟨(h s hs).1, fun a ha => ⟨(h s hs).2 a ha, by rw [hkeeps s, hv]⟩⟩

theorem Runs.warn {Q : Unit → State → Prop} {warnings : List Warning}
    (h : ∀ s, P s → Q () (s.warn warnings)) : Runs r P (Action.warn warnings) Q :=
  fun s hs => ⟨.single (.warn s warnings), fun _ _ => h s hs⟩

theorem Runs.breakOff {Q : Unit → State → Prop} {reason : Option (List Warning)}
    (h : ∀ s, P s → Q () (s.breakOff reason)) : Runs r P (Action.breakOff reason) Q :=
  fun s hs => ⟨.single (.breakOff s reason), fun _ _ => h s hs⟩

theorem Runs.update {Q : Unit → State → Prop} {f : Index → Index}
    (hstep : ∀ s, P s → Step r s (s.goTo (f s.index)))
    (h : ∀ s, P s → Q () (s.goTo (f s.index))) : Runs r P (Action.update f) Q :=
  fun s hs => ⟨.single (hstep s hs), fun _ _ => h s hs⟩

theorem Runs.add {Q : EntityId → State → Prop} {key : Key} {e : Entity}
    (hstep : ∀ s, P s → Step r s (s.goTo (s.index.add key e).2))
    (h : ∀ s, P s → Q (s.index.add key e).1 (s.goTo (s.index.add key e).2)) :
    Runs r P (Action.add key e) Q := by
  intro s hs
  refine ⟨.single (hstep s hs), fun id hid => ?_⟩
  cases hid
  exact h s hs

theorem ok_of_resolve {resolution : Resolution α} {s : State} {a : α}
    (h : (Action.resolve resolution s).1 = .ok a) : (resolution s.index).1 = .ok a := by
  unfold Action.resolve at h
  dsimp only [Action.goTo] at h
  cases hr : (resolution s.index).1 with
  | ok b =>
    rw [hr] at h
    rw [Except.ok.inj h]
  | error error =>
    rw [hr] at h
    cases h

theorem Runs.resolution {resolution : Resolution α}
    (hstep : ∀ s, P s → Step r s (s.goTo (resolution s.index).2))
    (h : ∀ s a, P s → (resolution s.index).1 = .ok a → Q a (s.goTo (resolution s.index).2)) :
    Runs r P (Action.resolve resolution) Q := by
  intro s hs
  rw [resolve_snd]
  exact ⟨.single (hstep s hs), fun a ha => h s a hs (ok_of_resolve ha)⟩

theorem Runs.each {items : List α} {step : α → Action Unit}
    (h : ∀ item ∈ items, Runs r P (step item) fun _ => P) :
    Runs r P (Action.each items step) fun _ => P := by
  induction items with
  | nil => exact Runs.pure fun _ hs => hs
  | cons item rest ih =>
    exact Runs.bind (h item List.mem_cons_self) fun _ =>
      ih fun item hi => h item (List.mem_cons_of_mem _ hi)

theorem Runs.collect {items : List α} {step : α → Action β} {good : α → β → State → Prop}
    (h : ∀ item ∈ items, Runs r P (step item) fun b s => good item b s ∧ P s)
    (hg : ∀ a b, Stable r (good a b)) :
    Runs r P (Action.collect items step) fun bs s =>
      List.Forall₂ (fun a b => good a b s) items bs ∧ P s := by
  induction items with
  | nil => exact Runs.pure fun _ hs => ⟨.nil, hs⟩
  | cons item rest ih =>
    refine Runs.bind (h item List.mem_cons_self) fun first => ?_
    have hrest := (ih fun item hi => h item (List.mem_cons_of_mem _ hi)).frame (hg item first)
    refine Runs.bind (hrest.weaken (fun _ hs => ⟨hs.2, hs.1⟩) fun _ _ hs => hs) fun more => ?_
    exact Runs.pure fun s hs => ⟨.cons hs.2 hs.1.1, hs.1.2⟩

theorem Runs.inDeclaration (place : Place) (h : Runs r P action Q) :
    Runs r P (Action.inDeclaration place action) Q := by
  intro s hs
  obtain ⟨path, hpost⟩ := h s hs
  unfold Action.inDeclaration
  split
  · rename_i error t he
    rw [he] at path
    exact ⟨path, fun _ hb => nomatch hb⟩
  · exact ⟨path, hpost⟩

end Rules

/-! ## Resolving and naming -/

theorem runs_resolution {p : State → Prop} (hp : Stable r p) {resolution : Resolution CType}
    (hstep : ∀ s : State, Step r s (s.goTo (resolution s.index).2)) :
    Runs r p (Action.resolve resolution) fun a s => Resolved resolution s a ∧ p s := by
  refine Runs.resolution (fun s _ => hstep s) fun s a hs ha => ⟨?_, hp _ _ (hstep s) hs⟩
  -- the index before and the one after are both among those that were reached
  exact ⟨s.index, List.mem_cons_of_mem _ s.index_mem_reached, ha, List.mem_cons_self⟩

theorem runs_resolve {p : State → Prop} (hp : Stable r p) (type : TypeRef) :
    Runs r p (Action.resolve (r.resolve type))
      fun a s => Resolved (r.resolve type) s a ∧ p s :=
  runs_resolution hp fun s => .resolve s type

theorem runs_resolveMember {p : State → Prop} (hp : Stable r p) (type : TypeRef) :
    Runs r p (Action.resolve (r.resolveMember type))
      fun a s => Resolved (r.resolveMember type) s a ∧ p s :=
  runs_resolution hp fun s => .resolveMember s type

theorem runs_donateName {P : State → Prop} {type : TypeRef} {name : Name}
    (hsource : ∀ s, P s → NamedBy r s.index type name) :
    Runs r P (donateName r type name) fun _ _ => True := by
  refine Runs.bind Runs.index fun index => ?_
  split
  · rename_i id hid
    have hl := (Index.lookup_of_get? hid).1
    exact Runs.update (fun s hs => .adoptName name (hs.1 ▸ hl) (hsource s hs.2)) fun _ _ => trivial
  · exact Runs.pure fun _ _ => trivial

/-! ## Enumerations -/

/-- An enumeration without constants stands under a key. -/
def Unfilled (key : Key) (id : EntityId) (index : Index) : Prop :=
  index.lookup key = some id ∧
    ∃ e : Enumeration, index.entity? id = some (.enumeration e) ∧ e.constants = []

theorem Unfilled.adoptName {key : Key} {id : EntityId} {index : Index} (h : Unfilled key id index)
    (name : Name) : Unfilled key id (index.adoptName id name) := by
  obtain ⟨hl, e, he, hc⟩ := h
  refine ⟨hl, if e.name.isEmpty then { e with name } else e, ?_, by split <;> exact hc⟩
  simp [Index.adoptName, Index.entity?_modify, he, Entity.adoptName]

theorem enumeration_of_existing {index : Index} {key : Key} {id : EntityId} {e : Enumeration}
    (h : ((index.get? key).bind fun id =>
      ((index.entity? id).bind Entity.enumeration?).map fun e => (id, e)) = some (id, e)) :
    index.lookup key = some id ∧ index.entity? id = some (.enumeration e) := by
  obtain ⟨id', hget, hmap⟩ := Option.bind_eq_some_iff.1 h
  obtain ⟨e', hent, he⟩ := Option.map_eq_some_iff.1 hmap
  obtain ⟨rfl, rfl⟩ := Prod.mk.inj he
  obtain ⟨f, hf, hfe⟩ := Option.bind_eq_some_iff.1 hent
  refine ⟨(Index.lookup_of_get? hget).1, ?_⟩
  cases f with
  | enumeration g => rw [hf, Option.some.inj hfe]
  | _ => cases hfe

/-- The key of a declaration leads to something. -/
def Bound (r : Resolver) (position : Nat) (s : State) : Prop :=
  ∃ id, s.index.lookup (r.unit.typeKey (r.unit.cursor position).type) = some id

theorem runs_readEnumeration {position : Nat} (kind : (r.unit.cursor position).kind = .enumDecl)
    (comment : List String) :
    Runs r (fun _ => True) (readEnumeration r (r.unit.cursor position) comment)
      fun _ => Bound r position := by
  have htag : (r.unit.cursor position).kind.isTag = true := by rw [kind]; rfl
  unfold readEnumeration
  refine Runs.bind Runs.index fun index => ?_
  dsimp only
  split
  · rename_i hfilled
    refine Runs.pure fun s hs => ?_
    obtain ⟨⟨id, e⟩, hex, _⟩ := (Option.any_eq_true _ _).1 hfilled
    exact ⟨id, hs.1 ▸ (enumeration_of_existing hex).1⟩
  rename_i hnew
  refine Runs.bind (Runs.breakOff (Q := fun _ s => index = s.index) fun s hs => hs.1) fun _ => ?_
  refine Runs.bind (Runs.warn (Q := fun _ s => index = s.index) fun s hs => hs) fun _ => ?_
  split
  · rename_i id e hex
    rw [hex] at hnew
    obtain ⟨hl, he⟩ := enumeration_of_existing hex
    -- the enumeration that is there has no constants, also under its new name
    have hunfilled : Unfilled (r.unit.typeKey (r.unit.cursor position).type) id index :=
      ⟨hl, e, he, by simpa using hnew⟩
    refine Runs.bind (Q := fun _ s =>
      Unfilled (r.unit.typeKey (r.unit.cursor position).type) id s.index)
      (Runs.update ?_ ?_) fun _ => Runs.update ?_ ?_
    · exact fun s hs => .adoptName _ (hs ▸ hl) (.declaration htag)
    · exact fun s hs => (hs ▸ hunfilled).adoptName _
    · rintro s ⟨hl, e, he, hc⟩
      exact .fillEnumeration _ _ kind hl he hc
    · exact fun s hs => ⟨id, hs.1⟩
  · refine Runs.bind (Runs.add (Q := fun _ => Bound r position)
      (fun s _ => .addEnumeration _ _ kind) fun s _ => ?_) fun _ => Runs.pure fun _ hs => hs
    exact ⟨_, s.index.lookup_add_self _ _⟩

/-! ## Structures and unions -/

/-- What a part of an aggregate consists of: a field among some cursors, and nested declarations
among them that are no fields. -/
def Member.Among (unit : ParsedUnit) (children : List Nat) : Member → Prop
  | .nested cursor => cursor ∈ children ∧ isField unit cursor = false
  | .field front cursor _ => cursor ∈ children ∧ isField unit cursor = true ∧
      ∀ inner, front = some inner → inner ∈ children ∧ isField unit inner = false

theorem Member.Among.mono {unit : ParsedUnit} {few many : List Nat} {member : Member}
    (h : member.Among unit few) (hsub : ∀ c ∈ few, c ∈ many) : member.Among unit many := by
  cases member with
  | nested cursor => exact ⟨hsub _ h.1, h.2⟩
  | field nested cursor description =>
    exact ⟨hsub _ h.1, h.2.1, fun inner hi => ⟨hsub _ (h.2.2 inner hi).1, (h.2.2 inner hi).2⟩⟩

theorem among_of_mem_membersFrom (unit : ParsedUnit) (stop : Location) :
    ∀ (previous : Location) (children : List Nat),
      ∀ member ∈ membersFrom unit stop previous children, member.Among unit children := by
  intro previous children
  fun_induction membersFrom unit stop previous children with
  | case1 => intro member hm; cases hm
  | case2 previous child rest hf description next hc ih =>
    intro member hm
    rcases List.mem_cons.1 hm with rfl | hm
    · exact ⟨List.mem_cons_self, hf, fun inner hi => nomatch hi⟩
    · exact (ih member hm).mono fun c hc => List.mem_cons_of_mem _ hc
  | case3 previous child hf =>
    intro member hm
    obtain rfl := List.mem_singleton.1 hm
    exact ⟨List.mem_cons_self, by simpa using hf⟩
  | case4 previous child hf field more hfield description next hc ih =>
    intro member hm
    rcases List.mem_cons.1 hm with rfl | hm
    · refine ⟨List.mem_cons_of_mem _ List.mem_cons_self, hfield, fun inner hi => ?_⟩
      cases hi
      exact ⟨List.mem_cons_self, by simpa using hf⟩
    · exact (ih member hm).mono fun c hc =>
        List.mem_cons_of_mem _ (List.mem_cons_of_mem _ hc)
  | case5 previous child hf field more hfield ih =>
    intro member hm
    rcases List.mem_cons.1 hm with rfl | hm
    · exact ⟨List.mem_cons_self, by simpa using hf⟩
    · exact (ih member hm).mono fun c hc => List.mem_cons_of_mem _ hc

/-- The parts of an aggregate are fields and declarations with a tag among its children. -/
theorem among_of_mem_members {unit : ParsedUnit} {cursor : Cursor} {member : Member}
    (h : member ∈ members unit cursor) : member.Among unit cursor.children :=
  (among_of_mem_membersFrom unit _ _ _ member h).mono fun _ hc => (List.mem_filter.1 hc).1

theorem isTag_of_mem_members {unit : ParsedUnit} {cursor : Cursor} {member : Member} {inner : Nat}
    (h : member ∈ members unit cursor) (hi : member = .nested inner ∨
      ∃ field description, member = .field (some inner) field description) :
    (unit.cursor inner).kind.isTag = true := by
  have ha := among_of_mem_membersFrom unit _ _ _ member h
  have hmem : inner ∈ cursor.children.filter (isMember unit) ∧ isField unit inner = false := by
    rcases hi with rfl | ⟨field, description, rfl⟩
    · exact ha
    · exact ha.2.2 inner rfl
  have hm := (List.mem_filter.1 hmem.1).2
  simpa [isMember, hmem.2] using hm

/-- The aggregate declared by a cursor is known, for the rest of the run. -/
def Known (r : Resolver) (position : Nat) (id : EntityId) (s : State) : Prop :=
  s.index.lookup (r.unit.typeKey (r.unit.cursor position).type) = some id ∧
    ∃ a, s.index.entity? id = some (.aggregate a)

/-- The aggregate declared by a cursor is known, and has been offered the name of the cursor. -/
structure Declares (r : Resolver) (position : Nat) (id : EntityId) (s : State) : Prop where
  bound : s.index.lookup (r.unit.typeKey (r.unit.cursor position).type) = some id
  named : ((r.unit.cursor position).name r.prefixes).parts ≠ [] → (nameOf s.index id).parts ≠ []

theorem Declares.growsTo {position : Nat} {id : EntityId} {s t : State}
    (h : Declares r position id s) (hgrows : s.index.GrowsTo t.index) : Declares r position id t := by
  refine ⟨hgrows.lookup h.bound, fun hname => ?_⟩
  rw [nameOf_growsTo hgrows (h.named hname)]
  exact h.named hname

theorem stable_declares (position : Nat) (id : EntityId) : Stable r (Declares r position id) :=
  fun _ _ step hs => hs.growsTo step.growsTo

theorem Known.adoptName {position : Nat} {id : EntityId} {s : State} (h : Known r position id s) :
    Declares r position id
      (s.goTo (s.index.adoptName id ((r.unit.cursor position).name r.prefixes))) := by
  obtain ⟨hl, a, ha⟩ := h
  refine ⟨hl, fun hname => ?_⟩
  rw [State.index_goTo, nameOf_adoptName ha rfl]
  split
  · exact hname
  · rename_i hempty
    simpa [Name.isEmpty] using hempty

/-- An aggregate is known once there is a placeholder for it. -/
theorem runs_placeholder {position : Nat} (kind : (r.unit.cursor position).kind.isAggregate = true) :
    Runs r (fun _ => True)
      (Action.placeholder (r.unit.typeKey (r.unit.cursor position).type)
        ((r.unit.cursor position).name r.prefixes) ((r.unit.cursor position).kind = .unionDecl))
      (Known r position) := by
  intro s _
  unfold Action.placeholder
  split
  · rename_i id index hok
    refine ⟨.single (.declare kind hok), fun id' hid => ?_⟩
    cases hid
    obtain ⟨hl, ha, _⟩ := Index.placeholder_eq_ok hok
    exact ⟨hl, ha⟩
  · exact ⟨.refl, fun _ hb => nomatch hb⟩

theorem runs_adoptDeclared {position : Nat} {id : EntityId}
    (kind : (r.unit.cursor position).kind.isTag = true) :
    Runs r (Known r position id)
      (Action.update fun i => i.adoptName id ((r.unit.cursor position).name r.prefixes))
      fun _ => Declares r position id :=
  .update (fun _ hs => .adoptName _ hs.1 (.declaration kind)) fun _ hs => hs.adoptName

theorem runs_describe {position : Nat} {id : EntityId} (comment : List String) :
    Runs r (Declares r position id)
      (Action.update fun i => i.modify id (Entity.mapAggregate fun a =>
        { a with description := a.description ++ comment }))
      fun _ => Declares r position id :=
  .update (fun _ hs => .describe comment hs.bound)
    fun _ hs => stable_declares _ _ _ _ (.describe comment hs.bound) hs

/-- What is nested in front of a field is offered the name of the aggregate and that of the field. -/
theorem runs_donateNested {position : Nat} {id : EntityId} {inner child : Nat}
    {description : List String}
    (hm : .field (some inner) child description ∈ members r.unit (r.unit.cursor position))
    (index : Index) :
    Runs r (fun s => index = s.index ∧ Declares r position id s)
      (donateName r (r.unit.cursor inner).type
        (nameOf index id ++ (r.unit.cursor child).name r.prefixes)) fun _ _ => True := by
  refine runs_donateName fun s hs => ?_
  rw [hs.1]
  exact .field hm hs.2.bound hs.2.named

/-- A field is added, after what is nested in front of it. -/
theorem runs_addField {position : Nat} {id : EntityId} {nested : Option Nat} {child : Nat}
    {description : List String}
    (hm : .field nested child description ∈ members r.unit (r.unit.cursor position)) :
    Runs r (Declares r position id)
      (do
        let type ← Action.resolve (r.resolveMember (r.unit.cursor child).type)
        Action.update fun index => index.modify id (Entity.mapAggregate fun a =>
          { a with fields := a.fields ++
            [⟨(r.unit.cursor child).name r.prefixes, type, description⟩] }))
      fun _ => Declares r position id := by
  have hamong := among_of_mem_members hm
  have hfield : (r.unit.cursor child).kind = .fieldDecl := by simpa [isField] using hamong.2.1
  have hstep : ∀ (s : State) (type : CType),
      Resolved (r.resolveMember (r.unit.cursor child).type) s type ∧ Declares r position id s →
      Step r s (s.goTo (s.index.modify id (Entity.mapAggregate fun a =>
        { a with fields := a.fields ++
          [⟨(r.unit.cursor child).name r.prefixes, type, description⟩] }))) :=
    fun s type hs => .addField description hs.2.bound hamong.1 hfield hs.1
  refine Runs.bind (runs_resolveMember (stable_declares position id) _) fun type => ?_
  exact Runs.update (fun s hs => hstep s type hs)
    fun s hs => stable_declares position id _ _ (hstep s type hs) hs.2

/-- What comes after a nested declaration in front of a field. -/
theorem runs_afterNested {position : Nat} {id : EntityId} {inner child : Nat}
    {description : List String}
    (hm : .field (some inner) child description ∈ members r.unit (r.unit.cursor position)) :
    Runs r (Declares r position id)
      (do
        let owner := nameOf (← Action.index) id
        donateName r (r.unit.cursor inner).type (owner ++ (r.unit.cursor child).name r.prefixes)
        let type ← Action.resolve (r.resolveMember (r.unit.cursor child).type)
        Action.update fun index => index.modify id (Entity.mapAggregate fun a =>
          { a with fields := a.fields ++
            [⟨(r.unit.cursor child).name r.prefixes, type, description⟩] }))
      fun _ => Declares r position id := by
  refine Runs.bind Runs.index fun index => ?_
  refine Runs.bind (Q := fun _ => Declares r position id) ?_ fun _ => runs_addField hm
  exact ((runs_donateNested hm index).frame (stable_declares position id)).weaken
    (fun _ hs => ⟨hs, hs.2⟩) fun _ _ hs => hs.2

theorem runs_readMember {position : Nat} {id : EntityId} {read : Nat → Action Unit}
    {member : Member} (hm : member ∈ members r.unit (r.unit.cursor position))
    (hread : ∀ inner, (r.unit.cursor inner).kind.isTag = true →
      Runs r (fun _ => True) (read inner) fun _ _ => True) :
    Runs r (Declares r position id) (readMember r read id member)
      fun _ => Declares r position id := by
  have hstable := stable_declares (r := r) position id
  cases member with
  | nested inner => exact (hread inner (isTag_of_mem_members hm (.inl rfl))).keeping hstable
  | field nested child description =>
    cases nested with
    | none => exact runs_addField hm
    | some inner =>
      have htag := isTag_of_mem_members hm (.inr ⟨child, description, rfl⟩)
      exact Runs.bind ((hread inner htag).keeping hstable) fun _ => runs_afterNested hm

theorem runs_readAggregate {position : Nat} {read : Nat → Action Unit}
    (kind : (r.unit.cursor position).kind.isAggregate = true)
    (hread : ∀ inner, (r.unit.cursor inner).kind.isTag = true →
      Runs r (fun _ => True) (read inner) fun _ _ => True) (comment : List String) :
    Runs r (fun _ => True) (readAggregate r read (r.unit.cursor position) comment)
      fun _ => Bound r position := by
  unfold readAggregate
  refine Runs.bind (runs_placeholder kind) fun id => ?_
  refine Runs.bind (runs_adoptDeclared (CursorKind.isTag_of_isAggregate kind)) fun _ => ?_
  split
  · exact Runs.pure fun _ hs => ⟨id, hs.bound⟩
  refine Runs.bind Runs.index fun index => ?_
  split
  · exact Runs.fail _
  refine Runs.bind ((runs_describe comment).weaken (fun _ hs => hs.2) fun _ _ hs => hs) fun _ => ?_
  exact (Runs.each fun member hm => runs_readMember hm hread).weaken (fun _ hs => hs)
    fun _ _ hs => ⟨id, hs.bound⟩

/-- **What is declared with a tag** is known once it has been read. -/
theorem bound_readTagWithin (levels : Nat) {position : Nat} (comment : List String)
    (kind : (r.unit.cursor position).kind.isTag = true) :
    Runs r (fun _ => True) (readTagWithin r levels position comment) fun _ => Bound r position := by
  induction levels generalizing position comment with
  | zero => exact Runs.fail _
  | succ levels ih =>
    unfold readTagWithin
    dsimp only
    split
    · rename_i hk
      exact runs_readEnumeration hk comment
    · rename_i hk
      have haggregate : (r.unit.cursor position).kind.isAggregate = true := by
        simpa [CursorKind.isTag, hk] using kind
      exact runs_readAggregate haggregate (fun inner hi => (ih [] hi).forget) comment

theorem runs_readTagWithin (levels : Nat) {position : Nat} (comment : List String)
    (kind : (r.unit.cursor position).kind.isTag = true) :
    Runs r (fun _ => True) (readTagWithin r levels position comment) fun _ _ => True :=
  (bound_readTagWithin levels comment kind).forget

/-! ## Functions, callbacks and macros -/

/-- Texts about parameters are all that is added to them. -/
theorem map_describe_of_eq {f : Parameter → α}
    (h : ∀ p description, f { p with description } = f p) (texts : Comment.Texts)
    (parameters : List Parameter) : (describe texts parameters).map f = parameters.map f := by
  refine List.ext_getElem (by simp [describe]) fun n h₁ h₂ => ?_
  simp only [describe, List.getElem_map, List.getElem_mapIdx]
  exact h _ _

/-- Right after it was resolved, a type has come out with the index of the state. -/
theorem runs_resolve_index {p : State → Prop} (hp : Stable r p) (source : TypeRef) :
    Runs r p (Action.resolve (r.resolve source)) fun type s =>
      (∃ before ∈ s.reached, r.resolve source before = (.ok type, s.index)) ∧ p s :=
  Runs.resolution (fun s _ => .resolve s source) fun s _ hs hok =>
    ⟨⟨s.index, List.mem_cons_of_mem _ s.index_mem_reached, Prod.ext hok rfl⟩,
      hp _ _ (.resolve s source) hs⟩

/-- A type is resolved at an index, and leaves the one at which it has come out. -/
theorem runs_resolve_at {before : Index} (source : TypeRef) :
    Runs r (fun s => before = s.index) (Action.resolve (r.resolve source)) fun type s =>
      before ∈ s.reached ∧ r.resolve source before = (.ok type, s.index) := by
  refine Runs.resolution (fun s _ => .resolve s source) fun s type hs hok => ?_
  subst hs
  exact ⟨List.mem_cons_of_mem _ s.index_mem_reached, Prod.ext hok rfl⟩

theorem runs_readParameter {before : Index} (cursor : Cursor) :
    Runs r (fun s => before = s.index) (readParameter r cursor) fun parameter s =>
      before ∈ s.reached ∧ ∃ type, r.resolve cursor.type before = (.ok type, s.index) ∧
        parameter = parameterOf s.index (cursor.name r.prefixes) type (hasBracket r.unit cursor) := by
  refine Runs.bind (runs_resolve_at cursor.type) fun type => ?_
  refine Runs.bind Runs.index fun index => Runs.pure fun s hs => ?_
  obtain ⟨rfl, hbefore, hresolve⟩ := hs
  exact ⟨hbefore, type, hresolve, rfl⟩

/-- **Parameters are read in order**, each at the index that the one before it left. -/
theorem runs_readParameters {before : Index} (declared : List Cursor) :
    Runs r (fun s => before = s.index) (Action.collect declared (readParameter r))
      fun parameters s => ReadsInOrder r s before declared parameters s.index := by
  induction declared generalizing before with
  | nil =>
    refine Runs.pure fun s hs => ?_
    subst hs
    exact .nil s.index_mem_reached
  | cons cursor rest ih =>
    refine Runs.bind (runs_readParameter cursor) fun first s hs => ?_
    obtain ⟨hbefore, type, hresolve, rfl⟩ := hs
    have hrest : Runs r (fun u => s.index = u.index ∧ before ∈ u.reached)
        (Action.collect rest (readParameter r)) fun more u =>
          ReadsInOrder r u s.index rest more u.index ∧ before ∈ u.reached :=
      ih.frame fun _ _ step h => Path.mem_reached (.single step) h
    have hall : Runs r (fun u => s.index = u.index ∧ before ∈ u.reached)
        (Action.collect rest (readParameter r) >>= fun more => pure
          (parameterOf s.index (cursor.name r.prefixes) type (hasBracket r.unit cursor) :: more))
        fun parameters u => ReadsInOrder r u before (cursor :: rest) parameters u.index :=
      Runs.bind hrest fun more => Runs.pure fun u hu => .cons hu.2 hresolve hu.1
    exact hall s ⟨rfl, hbefore⟩

theorem runs_readSignature {before : Index} {result : CType} (cursor : Cursor) :
    Runs r (fun s => before ∈ s.reached ∧ r.resolve cursor.result before = (.ok result, s.index))
      (Action.collect (parameterCursors r.unit cursor) (readParameter r))
      fun parameters s => ReadsSignature r s before cursor result parameters := by
  rintro s ⟨passed, hresult⟩
  obtain ⟨path, hpost⟩ := runs_readParameters (parameterCursors r.unit cursor) s rfl
  exact ⟨path, fun parameters hok =>
    ⟨path.mem_reached passed, s.index, _, hresult, hpost parameters hok⟩⟩

theorem runs_readCallbackParameter {p : State → Prop} (hp : Stable r p)
    (argument : TypeRef × Option Cursor) :
    Runs r p (readCallbackParameter r argument) fun parameter s =>
      ReadsArgument r s argument parameter ∧ p s := by
  rcases argument with ⟨type, _ | cursor⟩
  all_goals
    refine Runs.bind (runs_resolve_index hp _) fun type => ?_
    refine Runs.bind Runs.index fun index => Runs.pure fun s hs => ?_
    obtain ⟨rfl, ⟨before, hbefore, hresolve⟩, hps⟩ := hs
    exact ⟨⟨before, hbefore, s.index, s.index_mem_reached, hresolve, rfl⟩, hps⟩

/-- Texts about parameters change nothing else. -/
theorem forall₂_describe {δ : Type} {R : δ → Parameter → Prop} {declared : List δ}
    {parameters : List Parameter}
    (hR : ∀ d p description, R d p → R d { p with description })
    (h : List.Forall₂ R declared parameters) (texts : Comment.Texts) :
    List.Forall₂ R declared (describe texts parameters) := by
  rw [List.forall₂_iff_get] at h ⊢
  obtain ⟨hlength, hget⟩ := h
  refine ⟨by simp [describe, hlength], fun n h₁ h₂ => ?_⟩
  have hread := hget n h₁ (hlength ▸ h₁)
  simp only [describe, List.get_eq_getElem, List.getElem_mapIdx] at hread ⊢
  exact hR _ _ _ hread

theorem allResolved_callable {c : Callable} {texts : Comment.Texts} {parameters : List Parameter}
    {source : TypeRef} {s : State} (hc : c.parameters = describe texts parameters)
    (hresult : Resolved (r.resolve source) s c.result)
    (hparameters : ∀ p ∈ parameters, ∃ source, Resolved (r.resolve source) s p.type) :
    AllResolved r (Entity.callable c).types s := by
  intro type ht
  rw [Entity.types, hc, map_describe_of_eq (fun _ _ => rfl), List.mem_cons, List.mem_map] at ht
  rcases ht with rfl | ⟨p, hp, rfl⟩
  · exact ⟨source, hresult⟩
  · exact hparameters p hp

theorem runs_groupMethod {position : Nat} {function : EntityId} {first : Cursor}
    {more : List Cursor}
    (declared : parameterCursors r.unit (r.unit.cursor position) = first :: more) :
    Runs r (JustAdded r position function)
      (groupMethod r function ((r.unit.cursor position).name r.prefixes) first.type)
      fun _ _ => True := by
  refine Runs.bind Runs.index fun index => ?_
  split
  · rename_i owner hbehind
    split
    · rename_i short hagree
      refine Runs.update (fun s hs => ?_) fun _ _ => trivial
      obtain ⟨rfl, hadded⟩ := hs
      exact .addMethod hadded declared hbehind hagree
    · exact Runs.pure fun _ _ => trivial
  · exact Runs.pure fun _ _ => trivial

/-- The types of a function that was read were resolved. -/
theorem ReadFrom.allResolved {s : State} {position : Nat} {c : Callable}
    (h : ReadFrom r s position c) : AllResolved r (Entity.callable c).types s := by
  obtain ⟨before, comment, hread⟩ := h
  obtain ⟨parameters, ⟨passed, middle, last, hresult, hparameters⟩, hdescribed⟩ := hread.signature
  exact allResolved_callable hdescribed
    ⟨before, passed, by rw [hresult], by rw [hresult]; exact hparameters.first_mem⟩
    hparameters.resolved

/-- The key of a function stays free as long as the functions that are listed stay the same. -/
theorem lookup_function_of_listed {before after : Index} {canonical : Nat}
    (hlisted : listedFunctions after = listedFunctions before)
    (free : before.lookup (.function canonical) = none) : after.lookup (.function canonical) = none := by
  have hsame : after.contains (.function canonical) = before.contains (.function canonical) :=
    congrFun (congrArg Prod.fst hlisted) canonical
  simpa [Index.contains, free] using hsame

/-- What reading the function at a position leads to from an index: it is listed behind the others
unless it is among them. -/
def FunctionRead (config : Config) (r : Resolver) (before : Index) (position : Nat)
    (comment : List String) (s : State) : Prop :=
  if before.contains (.function (r.unit.canonicalCursor position)) then
    listedFunctions s.index = listedFunctions before
  else ∃ c, ReadsFunction r s before position comment c ∧
    c.isBlocking = config.isBlocking (r.unit.cursor position).spelling ∧
    listedFunctions s.index =
      withEntry Key.function (r.unit.canonicalCursor position) c (listedFunctions before)

/-- **A function is read** at the index where its declaration is reached. -/
theorem runs_readFunction (config : Config) {position : Nat}
    (kind : (r.unit.cursor position).kind = .functionDecl) (comment : List String) (before : Index) :
    Runs r (fun s => before = s.index) (readFunction config r position comment)
      fun _ s => FunctionRead config r before position comment s := by
  unfold readFunction
  refine Runs.bind Runs.index fun index => ?_
  dsimp only
  refine Runs.of_pre (p := index = before) (fun s hs => hs.1.trans hs.2.symm) fun heq => ?_
  subst heq
  unfold FunctionRead
  split
  · exact Runs.pure fun s hs => by rw [hs.1]
  rename_i hnew
  -- the listing stays while types are resolved, so the key is still free when the function is added
  have hmentions := ofNoType_functions.mentions (r := r)
  have free : index.lookup (.function (r.unit.canonicalCursor position)) = none := by
    simpa [Index.contains] using hnew
  have hresult : Runs r (fun s => index = s.index ∧ index = s.index)
      (Action.resolve (r.resolve (r.unit.cursor position).result)) fun result s =>
        (index ∈ s.reached ∧
          r.resolve (r.unit.cursor position).result index = (.ok result, s.index)) ∧
        listedFunctions s.index = listedFunctions index :=
    ((runs_resolve_at _).keeps (Keeps.resolve hmentions _)).weaken
      (fun s hs => ⟨hs.1, by rw [hs.1]⟩) fun _ _ hs => hs
  refine Runs.bind hresult fun result => ?_
  refine Runs.bind ((runs_readSignature _).keeps (Keeps.collect (keeps_readParameter hmentions)))
    fun parameters => ?_
  have hread : ∀ s, ReadsSignature r s index (r.unit.cursor position) result parameters →
      ReadsFunction r s index position comment
        { name := (r.unit.cursor position).name r.prefixes, result
          parameters := describe (Comment.splitFunction comment).parameters parameters
          isCallback := false
          isBlocking := config.isBlocking (r.unit.cursor position).spelling
          description := (Comment.splitFunction comment).description
          resultDescription := (Comment.splitFunction comment).result } :=
    fun s hs => ⟨free, rfl, ⟨parameters, hs, rfl⟩, rfl, rfl, rfl⟩
  refine Runs.bind (Q := fun id s => JustAdded r position id s ∧ ∃ c,
      ReadsFunction r s index position comment c ∧
      c.isBlocking = config.isBlocking (r.unit.cursor position).spelling ∧
      listedFunctions s.index =
        withEntry Key.function (r.unit.canonicalCursor position) c (listedFunctions index))
    (Runs.add (fun s hs => ?_) fun s hs => ?_) fun id => ?_
  · exact .addFunction kind rfl ⟨index, comment, hread s hs.1⟩
  · have hadded := stable_readsFunction index position comment _ _ _
      (.addFunction kind rfl ⟨index, comment, hread s hs.1⟩) (hread s hs.1)
    refine ⟨⟨s.index, List.mem_cons_of_mem _ s.index_mem_reached, _,
      lookup_function_of_listed hs.2 free, rfl, rfl, index, comment, hadded⟩, _, hadded, rfl, ?_⟩
    rw [State.index_goTo, ← hs.2]
    exact listed_add_self (lookup_function_of_listed hs.2 free) rfl
  · split
    · exact Runs.pure fun _ hs => hs.2
    · rename_i first more hdeclared
      rintro s ⟨hadded, c, hc, hblocking, hlisted⟩
      have hgroup := ((runs_groupMethod hdeclared).keeps (keeps_groupMethod ofNoType_functions id _ _)
        (v := withEntry Key.function (r.unit.canonicalCursor position) c
          (listedFunctions index))).frame (stable_readsFunction index position comment c)
      obtain ⟨path, hpost⟩ := hgroup s ⟨⟨hadded, hlisted⟩, hc⟩
      exact ⟨path, fun u hu => ⟨c, (hpost u hu).2, hblocking, (hpost u hu).1.2⟩⟩

theorem runs_readCallback {position : Nat} (kind : (r.unit.cursor position).kind = .typedefDecl)
    (comment : List String) :
    Runs r (fun _ => True) (readCallback r (r.unit.cursor position) comment) fun _ _ => True := by
  unfold readCallback
  dsimp only
  refine Runs.bind ((runs_resolve (Stable.const True) _).weaken (fun _ _ => trivial)
    fun _ _ hs => hs.1) fun result => ?_
  have hstable := stable_resolved (r := r)
    (r.resolve (prototype r.unit (r.unit.cursor position).underlying).result) result
  refine Runs.bind (Runs.collect (fun argument _ => runs_readCallbackParameter hstable argument)
    stable_readsArgument) fun parameters => ?_
  refine Runs.bind (Q := fun _ _ => True) (Runs.add (fun s hs => ?_) fun _ _ => trivial)
    fun _ => Runs.pure fun _ _ => trivial
  exact .addCallback kind rfl rfl
    (allResolved_callable rfl hs.2 (forall_mem_of_forall₂ hs.1 fun _ _ hp => hp.resolved))
    (forall₂_describe (fun _ _ _ hp => hp) hs.1 _)

theorem runs_readTypedef {position : Nat} (kind : (r.unit.cursor position).kind = .typedefDecl)
    (comment : List String) :
    Runs r (fun _ => True) (readTypedef r (r.unit.cursor position) comment) fun _ _ => True := by
  unfold readTypedef
  split
  · exact runs_readCallback kind comment
  · split
    · rename_i child hchildren
      exact runs_donateName fun _ _ => .typedef kind hchildren
    · exact Runs.pure fun _ _ => trivial

theorem runs_readMacro {position : Nat} (kind : (r.unit.cursor position).kind = .macroDefinition) :
    Runs r (fun _ => True) (readMacro r (r.unit.cursor position)) fun _ _ => True := by
  unfold readMacro
  dsimp only
  split
  · exact Runs.pure fun _ _ => trivial
  refine Runs.bind Runs.index fun index => ?_
  split
  · exact Runs.pure fun _ _ => trivial
  refine Runs.bind (Runs.breakOff (Q := fun _ _ => True) fun _ _ => trivial) fun _ => ?_
  split
  · exact Runs.bind (Runs.add (Q := fun _ _ => True) (fun s _ => .addConstant _ kind)
      fun _ _ => trivial) fun _ => Runs.pure fun _ _ => trivial
  · exact Runs.warn fun _ _ => trivial

/-! ## Units -/

theorem runs_readDeclaration (config : Config) (position : Nat) (comment : List String) :
    Runs r (fun _ => True) (readDeclaration config r position comment) fun _ _ => True := by
  unfold readDeclaration
  dsimp only
  split
  · exact runs_readTagWithin _ comment (by simp_all [CursorKind.isTag])
  · exact runs_readTagWithin _ comment (by simp_all [CursorKind.isTag, CursorKind.isAggregate])
  · exact runs_readTagWithin _ comment (by simp_all [CursorKind.isTag, CursorKind.isAggregate])
  · exact fun s _ => ⟨(runs_readFunction config ‹_› comment s.index s rfl).1, fun _ _ => trivial⟩
  · exact runs_readTypedef ‹_› comment
  · exact runs_readMacro ‹_›
  · exact Runs.pure fun _ _ => trivial

/-- **Reading a unit takes steps**, from whatever it starts and however it ends. -/
theorem readUnit_path (config : Config) (unit : ParsedUnit) (visible : List String) (s : State) :
    Path ⟨unit, config.prefixes, visible⟩ s (readUnit config unit visible s).2 := by
  refine (Runs.each (P := fun _ => True) (fun declaration _ => ?_) s trivial).1
  exact Runs.inDeclaration _ (runs_readDeclaration config _ _)

end HeaderIndex.Reader
