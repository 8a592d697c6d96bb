import HeaderIndex.Proofs.Reader.Fields
import HeaderIndex.Proofs.Reader.Run

/-!
# What reading ensures, and how it fails

`Runs` says which steps an action takes, however it ends.  Here the two ends are told apart.

* `Ensures` — from states with a given property on, an action that does not fail has a given result,
  and one that fails does so for a given reason in a given state.  One rule for each way to build an
  action.
* `Plain` — an action that leaves the fields of all aggregates alone and fails only for types
  without counterpart.
* `plain_readEnumeration`, `plain_readFunction`, `plain_readTypedef`, `plain_readMacro` — every
  reader but that of structures and unions is plain.
* `Ensures.of_plain` — a plain action keeps what depends on fields alone.
-/

namespace HeaderIndex.Reader

variable {α β : Type} {r : Resolver}

/-- From states with `P` on, a result of an action has `Q` together with the state after it, and a
failure of it has `E` together with the state that it leaves. -/
def Ensures (P : State → Prop) (action : Action α) (Q : α → State → Prop)
    (E : ReadError → State → Prop) : Prop :=
  ∀ s, P s → (∀ a, (action s).1 = .ok a → Q a (action s).2) ∧
    ∀ error, (action s).1 = .error error → E error (action s).2

/-! ## Rules -/

section Rules

variable {P : State → Prop} {Q : α → State → Prop} {E : ReadError → State → Prop}
  {action : Action α}

theorem Ensures.pure {a : α} (h : ∀ s, P s → Q a s) :
    Ensures P (Pure.pure a : Action α) Q E := by
  intro s hs
  refine ⟨fun b hb => ?_, fun error he => nomatch he⟩
  cases hb
  exact h s hs

theorem Ensures.fail {error : ReadError} (h : ∀ s, P s → E error s) :
    Ensures P (Action.fail error) Q E := by
  intro s hs
  refine ⟨fun b hb => (nomatch hb), fun error' he => ?_⟩
  cases he
  exact h s hs

theorem Ensures.index : Ensures P Action.index (fun index s => index = s.index ∧ P s) E := by
  intro s hs
  refine ⟨fun index hi => ?_, fun error he => nomatch he⟩
  cases hi
  exact ⟨rfl, hs⟩

theorem Ensures.bind {next : α → Action β} {Q' : β → State → Prop} (h : Ensures P action Q E)
    (hn : ∀ a, Ensures (Q a) (next a) Q' E) : Ensures P (action >>= next) Q' E := by
  intro s hs
  obtain ⟨hok, herror⟩ := h s hs
  rcases bind_cases action next s with ⟨a, t, ha, heq⟩ | ⟨error, t, ha, heq⟩ <;> rw [heq]
  · rw [ha] at hok
    exact hn a t (hok a rfl)
  · rw [ha] at herror
    refine ⟨fun b hb => (nomatch hb), fun error' he => ?_⟩
    cases he
    exact herror error rfl

theorem Ensures.weaken {P' : State → Prop} {Q' : α → State → Prop} (h : Ensures P action Q E)
    (hpre : ∀ s, P' s → P s) (hpost : ∀ a s, Q a s → Q' a s) : Ensures P' action Q' E :=
  fun s hs => ⟨fun a ha => hpost a _ ((h s (hpre s hs)).1 a ha), (h s (hpre s hs)).2⟩

/-- What is stable still holds when an action has ended. -/
theorem Ensures.frame {p : State → Prop} (h : Ensures P action Q E)
    (hr : Runs r (fun _ => True) action fun _ _ => True) (hp : Stable r p) :
    Ensures (fun s => P s ∧ p s) action (fun a s => Q a s ∧ p s) E :=
  fun s ⟨hs, hps⟩ =>
    ⟨fun a ha => ⟨(h s hs).1 a ha, hp.path (hr s trivial).1 hps⟩, (h s hs).2⟩

theorem Ensures.update {Q : Unit → State → Prop} {f : Index → Index}
    (h : ∀ s, P s → Q () (s.goTo (f s.index))) : Ensures P (Action.update f) Q E := by
  intro s hs
  exact ⟨fun _ _ => h s hs, fun error he => nomatch he⟩

/-- A loop, by what holds after each of its beginnings. -/
theorem Ensures.each {items : List α} {step : α → Action Unit} (inv : List α → State → Prop)
    (h : ∀ done item rest, items = done ++ item :: rest →
      Ensures (inv done) (step item) (fun _ => inv (done ++ [item])) E) :
    Ensures (inv []) (Action.each items step) (fun _ => inv items) E := by
  induction items generalizing inv with
  | nil => exact Ensures.pure fun _ hs => hs
  | cons item rest ih =>
    refine Ensures.bind (h [] item rest rfl) fun _ => ?_
    refine ih (fun done => inv (item :: done)) fun done next more heq => ?_
    exact h (item :: done) next more (by rw [heq]; rfl)

theorem Ensures.inDeclaration (place : Place) (h : Ensures P action Q E)
    (hE : ∀ place error s, E (.type place error) s) :
    Ensures P (Action.inDeclaration place action) Q E := by
  intro s hs
  obtain ⟨hok, herror⟩ := h s hs
  unfold Action.inDeclaration
  split
  · refine ⟨fun b hb => (nomatch hb), fun error he => ?_⟩
    cases he
    exact hE _ _ _
  · exact ⟨hok, herror⟩

end Rules

/-! ## Plain actions -/

/-- Whether an action leaves all fields alone and fails only for types. -/
structure Plain (action : Action α) : Prop where
  fields : ∀ s, fieldNames (action s).2.index = fieldNames s.index
  errors : ∀ s error, (action s).1 = .error error → ∃ place cause, error = .type place cause

section Plain

variable {action : Action α}

theorem Plain.pure (a : α) : Plain (Pure.pure a : Action α) :=
  ⟨fun _ => rfl, fun _ _ he => nomatch he⟩

theorem Plain.index : Plain Action.index :=
  ⟨fun _ => rfl, fun _ _ he => nomatch he⟩

theorem Plain.warn (warnings : List Warning) : Plain (Action.warn warnings) :=
  ⟨fun _ => rfl, fun _ _ he => nomatch he⟩

theorem Plain.breakOff (reason : Option (List Warning)) : Plain (Action.breakOff reason) :=
  ⟨fun _ => rfl, fun _ _ he => nomatch he⟩

theorem Plain.update {f : Index → Index} (h : ∀ i, fieldNames (f i) = fieldNames i) :
    Plain (Action.update f) :=
  ⟨fun s => h s.index, fun _ _ he => nomatch he⟩

theorem Plain.modify {id : EntityId} {f : Entity → Entity} (h : ∀ e, (f e).fields = e.fields) :
    Plain (Action.update fun i => i.modify id f) :=
  .update fun i => fieldNames_modify h i id

theorem Plain.adoptName (id : EntityId) (name : Name) :
    Plain (Action.update fun i => i.adoptName id name) :=
  .update fun i => fieldNames_adoptName i id name

theorem Plain.add {e : Entity} (h : e.fields = []) (key : Key) : Plain (Action.add key e) :=
  ⟨fun s => fieldNames_add h s.index key, fun _ _ he => nomatch he⟩

theorem Plain.resolution {resolution : Resolution α}
    (h : ∀ i, fieldNames (resolution i).2 = fieldNames i) : Plain (Action.resolve resolution) := by
  refine ⟨fun s => ?_, fun s error he => ?_⟩
  · rw [resolve_snd]
    exact h s.index
  · unfold Action.resolve at he
    dsimp only [Action.goTo] at he
    cases hr : (resolution s.index).1 with
    | ok a => rw [hr] at he; cases he
    | error cause => rw [hr] at he; cases he; exact ⟨none, cause, rfl⟩

theorem Plain.resolve (type : TypeRef) : Plain (Action.resolve (r.resolve type)) :=
  .resolution fun i => fieldNames_mentions (Resolver.mentions_resolve type i)

theorem Plain.resolveMember (type : TypeRef) : Plain (Action.resolve (r.resolveMember type)) :=
  .resolution fun i => fieldNames_mentions (Resolver.mentions_resolveMember type i)

theorem Plain.bind {next : α → Action β} (h : Plain action) (hn : ∀ a, Plain (next a)) :
    Plain (action >>= next) := by
  have hcases := bind_cases action next
  constructor
  · intro s
    have hfirst := h.fields s
    rcases hcases s with ⟨a, t, ha, heq⟩ | ⟨error, t, ha, heq⟩
    · rw [ha] at hfirst
      rw [heq, (hn a).fields t, hfirst]
    · rw [ha] at hfirst
      rw [heq, hfirst]
  · intro s error he
    rcases hcases s with ⟨a, t, ha, heq⟩ | ⟨error', t, ha, heq⟩
    · rw [heq] at he
      exact (hn a).errors t error he
    · rw [heq] at he
      cases he
      exact h.errors s error (by rw [ha])

theorem Plain.collect {items : List α} {step : α → Action β} (h : ∀ item, Plain (step item)) :
    Plain (Action.collect items step) := by
  induction items with
  | nil => exact Plain.pure []
  | cons item rest ih =>
    exact Plain.bind (h item) fun first => Plain.bind ih fun more => Plain.pure (first :: more)

/-- A plain action keeps what every run that leaves fields alone keeps. -/
theorem Ensures.of_plain {P p : State → Prop} {E : ReadError → State → Prop}
    (h : Plain action)
    (hr : Runs r P action fun _ _ => True)
    (hp : ∀ s t, Path r s t → fieldNames t.index = fieldNames s.index → p s → p t)
    (hE : ∀ place error s, E (.type place error) s) :
    Ensures (fun s => P s ∧ p s) action (fun _ => p) E := by
  rintro s ⟨hP, hs⟩
  obtain ⟨path, _⟩ := hr s hP
  refine ⟨fun a _ => hp s _ path (h.fields s) hs, fun error he => ?_⟩
  obtain ⟨place, cause, rfl⟩ := h.errors s error he
  exact hE place cause _

/-- A plain action fails only for types. -/
theorem Ensures.trivial_of_plain {E : ReadError → State → Prop} (h : Plain action)
    (hE : ∀ place error s, E (.type place error) s) :
    Ensures (fun _ => True) action (fun _ _ => True) E := by
  intro s _
  refine ⟨fun _ _ => trivial, fun error he => ?_⟩
  obtain ⟨place, cause, rfl⟩ := h.errors s error he
  exact hE place cause _

end Plain

/-! ## Plain readers -/

theorem plain_donateName (type : TypeRef) (name : Name) : Plain (donateName r type name) := by
  refine Plain.bind Plain.index fun index => ?_
  split
  · exact Plain.adoptName _ name
  · exact Plain.pure ()

theorem plain_readEnumeration (cursor : Cursor) (comment : List String) :
    Plain (readEnumeration r cursor comment) := by
  unfold readEnumeration
  refine Plain.bind Plain.index fun index => ?_
  dsimp only
  split
  · exact Plain.pure ()
  refine Plain.bind (Plain.breakOff _) fun _ => Plain.bind (Plain.warn _) fun _ => ?_
  split
  · refine Plain.bind (Plain.adoptName _ _) fun _ => ?_
    exact Plain.modify fun e => e.fields_mapEnumeration _
  · exact Plain.bind (Plain.add rfl _) fun _ => Plain.pure ()

theorem plain_readParameter (cursor : Cursor) : Plain (readParameter r cursor) := by
  refine Plain.bind (Plain.resolve _) fun type => ?_
  exact Plain.bind Plain.index fun index => Plain.pure _

theorem plain_readCallbackParameter (argument : TypeRef × Option Cursor) :
    Plain (readCallbackParameter r argument) := by
  rcases argument with ⟨type, _ | cursor⟩
  all_goals
    refine Plain.bind (Plain.resolve _) fun type => ?_
    exact Plain.bind Plain.index fun index => Plain.pure _

theorem plain_groupMethod (function : EntityId) (name : Name) (first : TypeRef) :
    Plain (groupMethod r function name first) := by
  refine Plain.bind Plain.index fun index => ?_
  split
  · split
    · exact Plain.modify (Entity.view_mapAggregate fun a => rfl)
    · exact Plain.pure ()
  · exact Plain.pure ()

theorem plain_readFunction (config : Config) (position : Nat) (comment : List String) :
    Plain (readFunction config r position comment) := by
  unfold readFunction
  refine Plain.bind Plain.index fun index => ?_
  dsimp only
  split
  · exact Plain.pure ()
  refine Plain.bind (Plain.resolve _) fun result => ?_
  refine Plain.bind (Plain.collect plain_readParameter) fun parameters => ?_
  refine Plain.bind (Plain.add rfl _) fun id => ?_
  split
  · exact Plain.pure ()
  · exact plain_groupMethod _ _ _

theorem plain_readCallback (cursor : Cursor) (comment : List String) :
    Plain (readCallback r cursor comment) := by
  unfold readCallback
  refine Plain.bind (Plain.resolve _) fun result => ?_
  refine Plain.bind (Plain.collect plain_readCallbackParameter) fun parameters => ?_
  exact Plain.bind (Plain.add rfl _) fun _ => Plain.pure ()

theorem plain_readTypedef (cursor : Cursor) (comment : List String) :
    Plain (readTypedef r cursor comment) := by
  unfold readTypedef
  split
  · exact plain_readCallback cursor comment
  · split
    · exact plain_donateName _ _
    · exact Plain.pure ()

theorem plain_readMacro (cursor : Cursor) : Plain (readMacro r cursor) := by
  unfold readMacro
  dsimp only
  split
  · exact Plain.pure ()
  refine Plain.bind Plain.index fun index => ?_
  split
  · exact Plain.pure ()
  refine Plain.bind (Plain.breakOff _) fun _ => ?_
  split
  · exact Plain.bind (Plain.add rfl _) fun _ => Plain.pure ()
  · exact Plain.warn _

theorem readDeclaration_of_isTag (config : Config) {position : Nat} (comment : List String)
    (h : (r.unit.cursor position).kind.isTag = true) :
    readDeclaration config r position comment = readTag r position comment := by
  unfold readDeclaration
  dsimp only
  split <;> simp_all [CursorKind.isTag, CursorKind.isAggregate]

/-- A declaration without members to read is read plainly. -/
theorem plain_readDeclaration (config : Config) {position : Nat} (comment : List String)
    (h : (r.unit.cursor position).kind.isTag = false) :
    Plain (readDeclaration config r position comment) := by
  unfold readDeclaration
  dsimp only
  split
  case h_4 => exact plain_readFunction config position comment
  case h_5 => exact plain_readTypedef _ comment
  case h_6 => exact plain_readMacro _
  case h_7 => exact Plain.pure ()
  all_goals simp_all [CursorKind.isTag, CursorKind.isAggregate]

end HeaderIndex.Reader
