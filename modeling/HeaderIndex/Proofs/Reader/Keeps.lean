import HeaderIndex.Proofs.Reader.Step

/-!
# What actions leave alone

* `bind_cases` — how two actions one after the other end.
* `Keeps` — an action leaves what an observation shows of the index as it is, whether it ends well or
  fails.  One rule for each way to build an action.
-/

namespace HeaderIndex.Reader

variable {α β γ : Type} {r : Resolver} {obs : Index → γ}

/-- Whether an action leaves what an observation shows of the index as it is. -/
def Keeps (obs : Index → γ) (action : Action α) : Prop :=
  ∀ s, obs (action s).2.index = obs s.index

theorem resolve_snd (resolution : Resolution α) (s : State) :
    (Action.resolve resolution s).2 = s.goTo (resolution s.index).2 := by
  unfold Action.resolve
  dsimp only [Action.goTo]
  cases (resolution s.index).1 <;> rfl

section Bind

variable {action : Action α} {s t : State}

theorem bind_of_ok {a : α} (h : action s = (.ok a, t)) (next : α → Action β) :
    (action >>= next) s = next a t := by
  show Action.bind action next s = next a t
  rw [Action.bind, h]

theorem bind_of_error {error : ReadError} (h : action s = (.error error, t))
    (next : α → Action β) : (action >>= next) s = (.error error, t) := by
  show Action.bind action next s = (.error error, t)
  rw [Action.bind, h]

/-- Two actions one after the other end like the second one, or fail with the first. -/
theorem bind_cases (action : Action α) (next : α → Action β) (s : State) :
    (∃ a t, action s = (.ok a, t) ∧ (action >>= next) s = next a t) ∨
      ∃ error t, action s = (.error error, t) ∧ (action >>= next) s = (.error error, t) := by
  rcases h : action s with ⟨error | a, t⟩
  · exact .inr ⟨error, t, rfl, bind_of_error h next⟩
  · exact .inl ⟨a, t, rfl, bind_of_ok h next⟩

end Bind

/-! ## Rules -/

section Rules

variable {action : Action α}

theorem Keeps.pure (a : α) : Keeps obs (Pure.pure a : Action α) := fun _ => rfl

theorem Keeps.fail (error : ReadError) : Keeps obs (Action.fail error : Action α) := fun _ => rfl

theorem Keeps.index : Keeps obs Action.index := fun _ => rfl

theorem Keeps.warn (warnings : List Warning) : Keeps obs (Action.warn warnings) := fun _ => rfl

theorem Keeps.breakOff (reason : Option (List Warning)) : Keeps obs (Action.breakOff reason) :=
  fun _ => rfl

theorem Keeps.update {f : Index → Index} (h : ∀ i, obs (f i) = obs i) :
    Keeps obs (Action.update f) := fun s => h s.index

theorem Keeps.add {key : Key} {e : Entity} (h : ∀ i : Index, obs (i.add key e).2 = obs i) :
    Keeps obs (Action.add key e) := fun s => h s.index

theorem Keeps.placeholder {key : Key} {name : Name} {isUnion : Bool}
    (h : ∀ (i j : Index) id, i.placeholder key name isUnion = .ok (id, j) → obs j = obs i) :
    Keeps obs (Action.placeholder key name isUnion) := by
  intro s
  unfold Action.placeholder
  split
  · exact h _ _ _ ‹_›
  · rfl

theorem Keeps.resolution {resolution : Resolution α} (h : ∀ i, obs (resolution i).2 = obs i) :
    Keeps obs (Action.resolve resolution) := by
  intro s
  rw [resolve_snd]
  exact h s.index

theorem Keeps.resolve (h : ∀ i j, r.Mentions i j → obs j = obs i) (type : TypeRef) :
    Keeps obs (Action.resolve (r.resolve type)) :=
  .resolution fun i => h i _ (Resolver.mentions_resolve type i)

theorem Keeps.resolveMember (h : ∀ i j, r.Mentions i j → obs j = obs i) (type : TypeRef) :
    Keeps obs (Action.resolve (r.resolveMember type)) :=
  .resolution fun i => h i _ (Resolver.mentions_resolveMember type i)

theorem Keeps.bind {next : α → Action β} (h : Keeps obs action) (hn : ∀ a, Keeps obs (next a)) :
    Keeps obs (action >>= next) := by
  intro s
  have hfirst := h s
  rcases bind_cases action next s with ⟨a, t, ha, heq⟩ | ⟨error, t, he, heq⟩
  · rw [ha] at hfirst
    rw [heq, hn a t, hfirst]
  · rw [he] at hfirst
    rw [heq, hfirst]

theorem Keeps.each {items : List α} {step : α → Action Unit}
    (h : ∀ item ∈ items, Keeps obs (step item)) : Keeps obs (Action.each items step) := by
  induction items with
  | nil => exact Keeps.pure ()
  | cons item rest ih =>
    refine Keeps.bind (h item List.mem_cons_self) fun _ => ih fun other hother => ?_
    exact h other (List.mem_cons_of_mem _ hother)

theorem Keeps.collect {items : List α} {step : α → Action β} (h : ∀ item, Keeps obs (step item)) :
    Keeps obs (Action.collect items step) := by
  induction items with
  | nil => exact Keeps.pure []
  | cons item rest ih =>
    exact Keeps.bind (h item) fun first => Keeps.bind ih fun more => Keeps.pure (first :: more)

theorem Keeps.inDeclaration (place : Place) (h : Keeps obs action) :
    Keeps obs (Action.inDeclaration place action) := by
  intro s
  have hkept := h s
  unfold Action.inDeclaration
  split
  · rename_i error t ht
    rw [ht] at hkept
    exact hkept
  · exact hkept

end Rules

/-! ## Reading parameters -/

theorem keeps_readParameter (h : ∀ i j, r.Mentions i j → obs j = obs i) (cursor : Cursor) :
    Keeps obs (readParameter r cursor) := by
  refine Keeps.bind (Keeps.resolve h _) fun type => ?_
  exact Keeps.bind Keeps.index fun index => Keeps.pure _

theorem keeps_readCallbackParameter (h : ∀ i j, r.Mentions i j → obs j = obs i)
    (argument : TypeRef × Option Cursor) : Keeps obs (readCallbackParameter r argument) := by
  rcases argument with ⟨type, _ | cursor⟩
  all_goals
    refine Keeps.bind (Keeps.resolve h _) fun type => ?_
    exact Keeps.bind Keeps.index fun index => Keeps.pure _

end HeaderIndex.Reader
