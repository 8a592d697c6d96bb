import HeaderIndex.Proofs.Reader.Definitions

/-!
# Reading goes down to every definition

A reading that ends well has read the parts of every definition in visible files, also of those that
are nested in others.

* `Below` — from a declaration down to what is nested in it.
* `ReadBelow` — all parts of the definitions below a declaration have led to what they lead to.
* `Ensures.append` — one more of a list leads to what it leads to.
* `ensures_readTagWithin_below` — reading a declaration reads all definitions below it.
* `ensures_readUnit_below` — reading a unit reads all definitions that are reached.
-/

namespace HeaderIndex.Reader

/-! ## Down from a declaration -/

/-- A member of a definition. -/
def IsMemberOf (unit : ParsedUnit) (parent child : Nat) : Prop :=
  IsDefinition unit parent ∧ child ∈ memberCursors unit parent

/-- From a declaration down to what is nested in it. -/
abbrev Below (unit : ParsedUnit) : Nat → Nat → Prop := Relation.ReflTransGen (IsMemberOf unit)

/-- What is reached lies below a top-level declaration. -/
theorem below_of_reachedAt {unit : ParsedUnit} {visible : List String} {path : List Nat}
    {position : Nat} (h : ReachedAt unit visible path position) :
    ∃ top ∈ visibleTop unit visible, Below unit top position := by
  induction h with
  | top h => exact ⟨_, List.mem_of_getElem? h, .refl⟩
  | member above definition h ih =>
    obtain ⟨top, htop, hbelow⟩ := ih
    exact ⟨top, htop, hbelow.tail ⟨definition, List.mem_of_getElem? h⟩⟩

/-- No definition lies below what is none. -/
theorem not_below_of_not {unit : ParsedUnit} {position q : Nat} (h : ¬ IsDefinition unit position)
    (hbelow : Below unit position q) : ¬ IsDefinition unit q := by
  rcases hbelow.cases_head with rfl | ⟨_, hmember, _⟩
  · exact h
  · exact absurd hmember.1 h

theorem not_isDefinition_of_isField {unit : ParsedUnit} {position : Nat}
    (h : isField unit position = true) : ¬ IsDefinition unit position := by
  rintro ⟨hkind, _⟩
  have hk : (unit.cursor position).kind = .fieldDecl := by simpa [isField] using h
  rw [hk] at hkind
  cases hkind

variable {r : Resolver} {I : State → Prop} {D : Nat → Member → State → Prop}

/-- All parts of the definitions below a declaration have led to what they lead to. -/
def ReadBelow (unit : ParsedUnit) (D : Nat → Member → State → Prop) (position : Nat) (s : State) :
    Prop :=
  ∀ q, Below unit position q → IsDefinition unit q →
    ∀ member ∈ members unit (unit.cursor q), D q member s

theorem readBelow_of_not {unit : ParsedUnit} {position : Nat} (h : ¬ IsDefinition unit position)
    (s : State) : ReadBelow unit D position s :=
  fun _ hbelow hq => absurd hq (not_below_of_not h hbelow)

theorem stable_readBelow (hD : ∀ q member, Stable r (D q member)) (position : Nat) :
    Stable r (ReadBelow r.unit D position) :=
  fun s t step h q hbelow hq member hm => hD q member s t step (h q hbelow hq member hm)

theorem Ensures.of_runs {α : Type} {P : State → Prop} {Q : α → State → Prop} {action : Action α}
    (h : Runs r P action Q) : Ensures P action Q fun _ _ => True :=
  fun s hs => ⟨(h s hs).2, fun _ _ => trivial⟩

theorem Ensures.and {α : Type} {P : State → Prop} {Q Q' : α → State → Prop}
    {E : ReadError → State → Prop} {action : Action α} (h : Ensures P action Q E)
    (h' : Ensures P action Q' E) : Ensures P action (fun a s => Q a s ∧ Q' a s) E :=
  fun s hs => ⟨fun a ha => ⟨(h s hs).1 a ha, (h' s hs).1 a ha⟩, (h s hs).2⟩

/-- One more of a list leads to what it leads to, and those before it still do. -/
theorem Ensures.append {α ι : Type} {P : State → Prop} {p : ι → State → Prop} {action : Action α}
    {done : List ι} {item : ι} (hruns : Runs r P action fun _ => P) (hp : ∀ x, Stable r (p x))
    (h : Ensures P action (fun _ => p item) fun _ _ => True) :
    Ensures (fun s => P s ∧ ∀ x ∈ done, p x s) action
      (fun _ s => P s ∧ ∀ x ∈ done ++ [item], p x s) fun _ _ => True := by
  have hdone : Stable r fun s => ∀ x ∈ done, p x s :=
    fun s t step hs x hx => hp x s t step (hs x hx)
  have hold := Ensures.of_runs (hruns.frame hdone)
  refine (hold.and (h.weaken (fun _ hs => hs.1) fun _ _ hs => hs)).weaken (fun _ hs => hs)
    fun _ s hs => ⟨hs.1.1, fun x hx => ?_⟩
  rcases List.mem_append.1 hx with hx | hx
  · exact hs.1.2 x hx
  · rw [List.mem_singleton.1 hx]
    exact hs.2

/-! ## One declaration after the other -/

/-- The declarations that are read one after the other, for what holds after each of them. -/
theorem ensures_positions (config : Config) (inv : List Nat → State → Prop)
    (h : ∀ position comment done, Ensures (inv done) (readDeclaration config r position comment)
      (fun _ => inv (done ++ [position])) fun _ _ => True)
    (hr : r.prefixes = config.prefixes) :
    Ensures (inv []) (readUnit config r.unit r.visible)
      (fun _ => inv (visibleTop r.unit r.visible)) fun _ _ => True := by
  have hresolver : (⟨r.unit, config.prefixes, r.visible⟩ : Resolver) = r := by rw [← hr]
  unfold readUnit
  dsimp only
  rw [hresolver, visibleTop, ← map_position_gapsFrom r.unit r.visible [] r.unit.top]
  refine Ensures.each (fun done : List Declaration => inv (done.map (·.position)))
    fun done declaration rest _ => ?_
  rw [List.map_append, List.map_singleton]
  exact (h _ _ _).inDeclaration _ fun _ _ _ => trivial

/-! ## One declaration -/

section Below

variable (hI : Stable r I) (hD : ∀ q member, Stable r (D q member))
  (hmember : ∀ position id levels, ∀ member ∈ members r.unit (r.unit.cursor position),
    Ensures (fun s => I s ∧ Declares r position id s)
      (readMember r (readTagWithin r levels · []) id member) (fun _ => D position member)
      fun _ _ => True)

include hD in
/-- What is nested in a part is read with it. -/
theorem ensures_readMember_below {read : Nat → Action Unit} {position : Nat} {id : EntityId}
    {member : Member} (hm : member ∈ members r.unit (r.unit.cursor position))
    (hread : ∀ inner, (r.unit.cursor inner).kind.isTag = true →
      Ensures I (read inner) (fun _ => ReadBelow r.unit D inner) fun _ _ => True)
    (hruns : ∀ inner, (r.unit.cursor inner).kind.isTag = true →
      Runs r (fun _ => True) (read inner) fun _ _ => True) :
    Ensures (fun s => I s ∧ Declares r position id s) (readMember r read id member)
      (fun _ s => ∀ c ∈ member.cursors, ReadBelow r.unit D c s) fun _ _ => True := by
  have hstable := stable_declares (r := r) position id
  have hamong := among_of_mem_members hm
  cases member with
  | nested inner =>
    refine (hread inner (isTag_of_mem_members hm (.inl rfl))).weaken (fun _ hs => hs.1)
      fun _ s hs c hc => ?_
    rw [List.mem_singleton.1 hc]
    exact hs
  | field nested child description =>
    have hchild : ∀ s, ReadBelow r.unit D child s :=
      readBelow_of_not (not_isDefinition_of_isField hamong.2.1)
    cases nested with
    | none =>
      refine fun s _ => ⟨fun _ _ c hc => ?_, fun _ _ => trivial⟩
      rw [List.mem_singleton.1 hc]
      exact hchild _
    | some inner =>
      have htag := isTag_of_mem_members hm (.inr ⟨child, description, rfl⟩)
      refine Ensures.bind ((((hread inner htag).frame (hruns inner htag) hstable)))
        fun _ => ?_
      refine (Ensures.of_runs ((runs_afterNested hm).frame (stable_readBelow hD inner))).weaken
        (fun _ hs => ⟨hs.2, hs.1⟩) fun _ s hs c hc => ?_
      rcases List.mem_cons.1 hc with rfl | hc
      · exact hs.2
      · rw [List.mem_singleton.1 hc]
        exact hchild s

include hI hD hmember in
/-- **Reading a declaration reads all definitions below it.** -/
theorem ensures_readTagWithin_below (levels : Nat) {position : Nat} (comment : List String)
    (kind : (r.unit.cursor position).kind.isTag = true) :
    Ensures I (readTagWithin r levels position comment)
      (fun _ => ReadBelow r.unit D position) fun _ _ => True := by
  induction levels generalizing position comment with
  | zero => exact Ensures.fail fun _ _ => trivial
  | succ levels ih =>
    unfold readTagWithin
    dsimp only
    split
    · rename_i hkind
      refine fun s _ => ⟨fun _ _ => readBelow_of_not (fun hp => ?_) _, fun _ _ => trivial⟩
      rw [IsDefinition, hkind] at hp
      cases hp.1
    rename_i hkind
    have haggregate : (r.unit.cursor position).kind.isAggregate = true := by
      simpa [CursorKind.isTag, hkind] using kind
    unfold readAggregate
    refine Ensures.bind (.of_runs (((runs_placeholder haggregate).frame hI).weaken
      (fun _ hs => ⟨trivial, hs⟩) fun _ _ hs => hs)) fun id => ?_
    refine Ensures.bind (.of_runs ((runs_adoptDeclared kind).frame hI)) fun _ => ?_
    split
    · rename_i hforward
      refine fun s _ => ⟨fun _ _ => readBelow_of_not (fun hp => ?_) _, fun _ _ => trivial⟩
      simp [hp.2] at hforward
    refine Ensures.bind Ensures.index fun index => ?_
    split
    · exact Ensures.fail fun _ _ => trivial
    refine Ensures.bind (.of_runs (((runs_describe comment).frame hI).weaken
      (fun _ hs => hs.2) fun _ _ hs => hs)) fun _ => ?_
    -- after each part it has led to what it leads to, and what is nested in it has been read
    refine (Ensures.each (fun done s => (Declares r position id s ∧ I s) ∧ ∀ member ∈ done,
      D position member s ∧ ∀ c ∈ member.cursors, ReadBelow r.unit D c s)
      fun done member rest hsplit => ?_).weaken
      (fun s hs => ⟨hs, fun _ h => absurd h List.not_mem_nil⟩) fun _ s hs => ?_
    · have hm : member ∈ members r.unit (r.unit.cursor position) := by rw [hsplit]; simp
      have hruns : ∀ inner, (r.unit.cursor inner).kind.isTag = true →
          Runs r (fun _ => True) (readTagWithin r levels inner []) fun _ _ => True :=
        fun inner htag => runs_readTagWithin levels [] htag
      refine Ensures.append ((runs_readMember hm hruns).frame hI)
        (fun other s t step hs => ⟨hD position other s t step hs.1,
          fun c hc => stable_readBelow hD c s t step (hs.2 c hc)⟩) ?_
      exact ((hmember position id levels member hm).and (ensures_readMember_below hD hm
        (fun inner htag => ih [] htag) hruns)).weaken (fun s hs => ⟨hs.2, hs.1⟩) fun _ _ hs => hs
    · intro q hbelow hq member hm
      rcases hbelow.cases_head with rfl | ⟨c, ⟨_, hc⟩, hbelow⟩
      · exact (hs.2 member hm).1
      · rw [memberCursors, ← flatMap_cursors_members] at hc
        obtain ⟨part, hpart, hcursor⟩ := List.mem_flatMap.1 hc
        exact (hs.2 part hpart).2 c hcursor q hbelow hq member hm

/-! ## A whole unit -/

include hI hD hmember in
/-- **Reading a unit reads all definitions that are reached.** -/
theorem ensures_readUnit_below (config : Config) (hr : r.prefixes = config.prefixes) :
    Ensures I (readUnit config r.unit r.visible)
      (fun _ s => ∀ q ∈ definitions r.unit r.visible,
        ∀ member ∈ members r.unit (r.unit.cursor q), D q member s) fun _ _ => True := by
  refine (ensures_positions config (fun done s => I s ∧ ∀ position ∈ done,
    ReadBelow r.unit D position s) (fun position comment done => ?_) hr).weaken
    (fun s hs => ⟨hs, fun _ h => absurd h List.not_mem_nil⟩) fun _ s hs q hq member hm => ?_
  · refine Ensures.append ((runs_readDeclaration config position comment).keeping hI)
      (stable_readBelow hD) ?_
    cases htag : (r.unit.cursor position).kind.isTag with
    | true =>
      rw [readDeclaration_of_isTag config comment htag]
      exact ensures_readTagWithin_below hI hD hmember _ comment htag
    | false =>
      refine fun s _ => ⟨fun _ _ => readBelow_of_not (fun hp => ?_) _, fun _ _ => trivial⟩
      rw [CursorKind.isTag_of_isAggregate hp.1] at htag
      cases htag
  · obtain ⟨hq, path, hreached⟩ := hq
    obtain ⟨top, htop, hbelow⟩ := below_of_reachedAt hreached
    exact hs.2 top htop q hbelow hq member hm

end Below

end HeaderIndex.Reader
