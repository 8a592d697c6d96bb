import HeaderIndex.Proofs.Index.Closed
import HeaderIndex.Proofs.Resolve.Placeholder
import HeaderIndex.Reader.Run
import Mathlib.Data.List.Forall2
import Mathlib.Logic.Relation

/-!
# The steps of reading

Reading is a sequence of small changes to the state.  `Step` lists all of them with what is known
where they happen, so that what every run keeps follows from what every step keeps.

* `ReadsInOrder`, `ReadsFunction`, `ReadFrom` — what a function has from the declaration that it was read from,
  and from the index of the run at which it was read.
* `NamedBy` — where the names come from that are offered to what is declared.
* `Step` — one change: warnings, the end of what counts, a type that is resolved, an entity that is
  declared, named or filled.
* `Step.growsTo`, `Path.growsTo` — a step makes the index grow, and so does a run.
* `Path.pairwise` — every index of a run grows out of every earlier one.
* `Path.provenance` — what is seen of an entity has been there from the start, or it has a source.
* `Stable` — what holds at a state and at all states after it.
-/

namespace HeaderIndex.Reader

/-- The state after going on to another index. -/
def State.goTo (state : State) (index : Index) : State :=
  { state with index, earlier := state.index :: state.earlier }

/-- The state after warnings were given. -/
def State.warn (state : State) (warnings : List Warning) : State :=
  { state with warnings := warnings.reverse ++ state.warnings }

/-- The state after the reading was broken off, if there is a reason to. -/
def State.breakOff (state : State) (reason : Option (List Warning)) : State :=
  { state with cut := state.cut <|> reason.map (·.reverse ++ state.warnings) }

/-- Nothing has been read into an index that is given. -/
def State.startingFrom (index : Index) : State := ⟨index, [], [], none⟩

@[simp] theorem State.reached_goTo (state : State) (index : Index) :
    (state.goTo index).reached = index :: state.reached := rfl

@[simp] theorem State.index_goTo (state : State) (index : Index) :
    (state.goTo index).index = index := rfl

@[simp] theorem State.reached_warn (state : State) (warnings : List Warning) :
    (state.warn warnings).reached = state.reached := rfl

@[simp] theorem State.reached_breakOff (state : State) (reason : Option (List Warning)) :
    (state.breakOff reason).reached = state.reached := rfl

theorem State.index_mem_reached (state : State) : state.index ∈ state.reached :=
  List.mem_cons_self

/-- A type that came out of resolving another one at some point of the run. -/
def Resolved (resolution : Resolution CType) (state : State) (type : CType) : Prop :=
  ∃ index ∈ state.reached, (resolution index).1 = .ok type ∧ (resolution index).2 ∈ state.reached

/-- Types that were resolved, each from some type of the source. -/
def AllResolved (r : Resolver) (ts : List CType) (state : State) : Prop :=
  ∀ type ∈ ts, ∃ source, Resolved (r.resolve source) state type

/-- Whether a square bracket stands among the tokens of a declaration. -/
def hasBracket (unit : ParsedUnit) (cursor : Cursor) : Bool :=
  (unit.tokensOf cursor).any (·.spelling = "[")

/-- Parameters that are read one after the other between two indexes of a run.  The type of each is
resolved at the index that the one before it left, and without a name it has that of its type then. -/
inductive ReadsInOrder (r : Resolver) (state : State) :
    Index → List Cursor → List Parameter → Index → Prop
  | nil {index : Index} (passed : index ∈ state.reached) : ReadsInOrder r state index [] [] index
  | cons {before after last : Index} {declared : Cursor} {type : CType} {rest : List Cursor}
      {parameters : List Parameter} (passed : before ∈ state.reached)
      (resolved : r.resolve declared.type before = (.ok type, after))
      (more : ReadsInOrder r state after rest parameters last) :
      ReadsInOrder r state before (declared :: rest)
        (parameterOf after (declared.name r.prefixes) type (hasBracket r.unit declared) :: parameters)
        last

/-- The name that a parameter of a callback is declared with. -/
def argumentName (prefixes : List String) (argument : TypeRef × Option Cursor) : Name :=
  (argument.2.map (·.name prefixes)).getD ⟨[], none⟩

/-- A parameter of a callback that was read from its declaration or, where only that is there, from
its type.  Without a name it has the one that its type had then. -/
def ReadsArgument (r : Resolver) (state : State) (argument : TypeRef × Option Cursor)
    (p : Parameter) : Prop :=
  ∃ before ∈ state.reached, ∃ after ∈ state.reached,
    r.resolve ((argument.2.map (·.type)).getD argument.1) before = (.ok p.type, after) ∧
      p.name = if (argumentName r.prefixes argument).isEmpty then after.nameOf p.type
        else argumentName r.prefixes argument

/-- The result and the parameters that a declaration gives at an index of a run, where the result is
resolved first and then the parameters are read in order. -/
def ReadsSignature (r : Resolver) (state : State) (before : Index) (cursor : Cursor) (result : CType)
    (parameters : List Parameter) : Prop :=
  before ∈ state.reached ∧ ∃ middle last, r.resolve cursor.result before = (.ok result, middle) ∧
    ReadsInOrder r state middle (parameterCursors r.unit cursor) parameters last

/-- A function that is read from the declaration at a position, behind a comment, at an index of a run
that has none with its key. -/
structure ReadsFunction (r : Resolver) (state : State) (before : Index) (position : Nat)
    (comment : List String) (c : Callable) : Prop where
  free : before.lookup (.function (r.unit.canonicalCursor position)) = none
  name : c.name = (r.unit.cursor position).name r.prefixes
  signature : ∃ parameters,
    ReadsSignature r state before (r.unit.cursor position) c.result parameters ∧
    c.parameters = describe (Comment.splitFunction comment).parameters parameters
  isCallback : c.isCallback = false
  description : c.description = (Comment.splitFunction comment).description
  resultDescription : c.resultDescription = (Comment.splitFunction comment).result

/-- A function that was read from the declaration at a position. -/
def ReadFrom (r : Resolver) (state : State) (position : Nat) (c : Callable) : Prop :=
  ∃ before comment, ReadsFunction r state before position comment c

/-- Where a name comes from that is offered to what is declared with a type. -/
inductive NamedBy (r : Resolver) (index : Index) : TypeRef → Name → Prop
  /-- from the declaration itself -/
  | declaration {position : Nat} (kind : (r.unit.cursor position).kind.isTag = true) :
      NamedBy r index (r.unit.cursor position).type ((r.unit.cursor position).name r.prefixes)
  /-- from a typedef around the declaration -/
  | typedef {position child : Nat} (kind : (r.unit.cursor position).kind = .typedefDecl)
      (around : (r.unit.cursor position).children = [child]) :
      NamedBy r index (r.unit.cursor child).type ((r.unit.cursor position).name r.prefixes)
  /-- from the field behind the declaration, in an aggregate with the name that this has, which is not
  empty if the aggregate is declared with a name -/
  | field {position inner child : Nat} {description : List String} {id : EntityId}
      (behind : .field (some inner) child description ∈ members r.unit (r.unit.cursor position))
      (bound : index.lookup (r.unit.typeKey (r.unit.cursor position).type) = some id)
      (named : ((r.unit.cursor position).name r.prefixes).parts ≠ [] → (nameOf index id).parts ≠ []) :
      NamedBy r index (r.unit.cursor inner).type
        (nameOf index id ++ (r.unit.cursor child).name r.prefixes)

/-- The latest change was to add a function that was read from the declaration at a position. -/
def JustAdded (r : Resolver) (position : Nat) (function : EntityId) (state : State) : Prop :=
  ∃ before ∈ state.reached, ∃ c : Callable,
    before.lookup (.function (r.unit.canonicalCursor position)) = none ∧
    before.add (.function (r.unit.canonicalCursor position)) (.callable c) =
      (function, state.index) ∧
    c.isCallback = false ∧ ReadFrom r state position c

/-- One change that reading makes to its state. -/
inductive Step (r : Resolver) : State → State → Prop
  /-- values could not be worked out -/
  | warn (state : State) (warnings : List Warning) : Step r state (state.warn warnings)
  /-- the reading is broken off, if there is a reason to -/
  | breakOff (state : State) (reason : Option (List Warning)) :
      Step r state (state.breakOff reason)
  /-- a type is resolved -/
  | resolve (state : State) (type : TypeRef) :
      Step r state (state.goTo (r.resolve type state.index).2)
  /-- the type of a member is resolved -/
  | resolveMember (state : State) (type : TypeRef) :
      Step r state (state.goTo (r.resolveMember type state.index).2)
  /-- a structure or union is made known -/
  | declare {state : State} {position : Nat} {id : EntityId} {index : Index}
      (kind : (r.unit.cursor position).kind.isAggregate = true)
      (known : state.index.placeholder (r.unit.typeKey (r.unit.cursor position).type)
        ((r.unit.cursor position).name r.prefixes)
        ((r.unit.cursor position).kind = .unionDecl) = .ok (id, index)) :
      Step r state (state.goTo index)
  /-- a name is offered to what is declared with a type -/
  | adoptName {state : State} {type : TypeRef} {id : EntityId} (name : Name)
      (bound : state.index.lookup (r.unit.typeKey type) = some id)
      (source : NamedBy r state.index type name) :
      Step r state (state.goTo (state.index.adoptName id name))
  /-- the definition of a structure or union begins -/
  | describe {state : State} {position : Nat} {id : EntityId} (comment : List String)
      (bound : state.index.lookup (r.unit.typeKey (r.unit.cursor position).type) = some id) :
      Step r state (state.goTo (state.index.modify id (Entity.mapAggregate fun a =>
        { a with description := a.description ++ comment })))
  /-- a field is added to a structure or union -/
  | addField {state : State} {position child : Nat} {id : EntityId} {type : CType}
      (description : List String)
      (bound : state.index.lookup (r.unit.typeKey (r.unit.cursor position).type) = some id)
      (member : child ∈ (r.unit.cursor position).children)
      (kind : (r.unit.cursor child).kind = .fieldDecl)
      (resolved : Resolved (r.resolveMember (r.unit.cursor child).type) state type) :
      Step r state (state.goTo (state.index.modify id (Entity.mapAggregate fun a =>
        { a with
          fields := a.fields ++ [⟨(r.unit.cursor child).name r.prefixes, type, description⟩] })))
  /-- an enumeration that is not in the index is added with its constants -/
  | addEnumeration {state : State} {position : Nat} (texts : Comment.Texts)
      (description : List String) (kind : (r.unit.cursor position).kind = .enumDecl) :
      Step r state (state.goTo (state.index.add (r.unit.typeKey (r.unit.cursor position).type)
        (.enumeration ⟨(r.unit.cursor position).name r.prefixes,
          (enumerators r.unit r.prefixes texts (r.unit.cursor position)).constants,
          description⟩)).2)
  /-- an enumeration without constants gets them -/
  | fillEnumeration {state : State} {position : Nat} {id : EntityId} {e : Enumeration}
      (texts : Comment.Texts) (description : List String)
      (kind : (r.unit.cursor position).kind = .enumDecl)
      (bound : state.index.lookup (r.unit.typeKey (r.unit.cursor position).type) = some id)
      (found : state.index.entity? id = some (.enumeration e)) (empty : e.constants = []) :
      Step r state (state.goTo (state.index.modify id (Entity.mapEnumeration fun e =>
        { e with
          constants := (enumerators r.unit r.prefixes texts (r.unit.cursor position)).constants
          description })))
  /-- a function is added -/
  | addFunction {state : State} {position : Nat} {c : Callable}
      (kind : (r.unit.cursor position).kind = .functionDecl)
      (function : c.isCallback = false) (read : ReadFrom r state position c) :
      Step r state
        (state.goTo (state.index.add (.function (r.unit.canonicalCursor position)) (.callable c)).2)
  /-- a function that has just been added is listed with the aggregate behind its first parameter -/
  | addMethod {state : State} {position : Nat} {function owner : EntityId} {first : Cursor}
      {more : List Cursor} {short : Name}
      (added : JustAdded r position function state)
      (declared : parameterCursors r.unit (r.unit.cursor position) = first :: more)
      (behind : r.pointeeAggregate? first.type state.index = some owner)
      (agree : (nameOf state.index owner).method? ((r.unit.cursor position).name r.prefixes) =
        some short) :
      Step r state (state.goTo (state.index.modify owner (Entity.mapAggregate fun a =>
        { a with methods := a.methods ++ [⟨short, function⟩] })))
  /-- a callback is added -/
  | addCallback {state : State} {position : Nat} {c : Callable}
      (kind : (r.unit.cursor position).kind = .typedefDecl)
      (callback : c.isCallback = true) (named : c.name = (r.unit.cursor position).name r.prefixes)
      (resolved : AllResolved r (Entity.callable c).types state)
      (parameters : List.Forall₂ (ReadsArgument r state)
        (callbackArguments r.unit (prototype r.unit (r.unit.cursor position).underlying)
          (r.unit.cursor position)) c.parameters) :
      Step r state (state.goTo
        (state.index.add (r.unit.typeKey (r.unit.cursor position).type) (.callable c)).2)
  /-- a macro with a value is added -/
  | addConstant {state : State} {position : Nat} (value : Number)
      (kind : (r.unit.cursor position).kind = .macroDefinition) :
      Step r state (state.goTo (state.index.add (.ofMacro (r.unit.cursor position).spelling)
        (.constant ⟨(r.unit.cursor position).name r.prefixes, value⟩)).2)

/-- Any number of steps. -/
abbrev Path (r : Resolver) : State → State → Prop := Relation.ReflTransGen (Step r)

variable {r : Resolver} {s t : State}

theorem JustAdded.bound {position : Nat} {function : EntityId}
    (h : JustAdded r position function s) :
    s.index.lookup (.function (r.unit.canonicalCursor position)) = some function := by
  obtain ⟨before, _, c, _, hadd, _⟩ := h
  have hl := before.lookup_add_self (.function (r.unit.canonicalCursor position)) (.callable c)
  rw [hadd] at hl
  exact hl

/-! ## Names -/

/-- A name that has words stays. -/
theorem nameOf_growsTo {i j : Index} {id : EntityId} (h : i.GrowsTo j)
    (hwords : (nameOf i id).parts ≠ []) : nameOf j id = nameOf i id := by
  cases he : i.entity? id with
  | none => simp [nameOf, he, Name.anonymous] at hwords
  | some e =>
    obtain ⟨e', he', hg⟩ := h.entities id e he
    simp only [nameOf, he, he', Option.map_some, Option.getD_some] at hwords ⊢
    cases e with
    | enumeration e =>
      obtain ⟨e', rfl⟩ := hg.enumeration
      exact hg.1 hwords
    | aggregate a =>
      obtain ⟨a', rfl, _⟩ := hg.aggregate
      exact hg.1 hwords
    | callable c => rw [hg.callable]
    | constant c => rw [hg.constant]

/-- A name is taken by what waits for one. -/
theorem nameOf_adoptName {i : Index} {id : EntityId} {e : Entity} (he : i.entity? id = some e)
    (hcan : e.canAdoptName = true) (name : Name) :
    nameOf (i.adoptName id name) id = if (nameOf i id).isEmpty then name else nameOf i id := by
  simp only [nameOf, Index.adoptName, Index.entity?_modify, if_true, he, Option.map_some,
    Option.getD_some]
  cases e with
  | enumeration e => exact apply_ite Enumeration.name _ _ _
  | aggregate a => exact apply_ite Aggregate.name _ _ _
  | callable c => cases hcan
  | constant c => cases hcan

/-! ## Steps make the index grow -/

theorem growsTo_mapAggregate {f : Aggregate → Aggregate} (e : Entity)
    (h : ∀ a, (Entity.aggregate a).GrowsTo (.aggregate (f a))) : e.GrowsTo (e.mapAggregate f) := by
  cases e with
  | aggregate a => exact h a
  | _ => exact .refl _

theorem Step.growsTo (h : Step r s t) : s.index.GrowsTo t.index := by
  cases h with
  | warn => exact .refl _
  | breakOff => exact .refl _
  | resolve type => exact (Resolver.mentions_resolve type s.index).growsTo
  | resolveMember type => exact (Resolver.mentions_resolveMember type s.index).growsTo
  | declare kind known => exact Index.growsTo_placeholder known
  | adoptName name => exact Index.growsTo_adoptName _ _ name
  | describe =>
    exact Index.growsTo_modify fun e _ => growsTo_mapAggregate e fun a => ⟨fun _ => rfl, rfl,
      List.prefix_rfl, List.prefix_rfl⟩
  | addField =>
    exact Index.growsTo_modify fun e _ => growsTo_mapAggregate e fun a => ⟨fun _ => rfl, rfl,
      List.prefix_append _ _, List.prefix_rfl⟩
  | addMethod =>
    exact Index.growsTo_modify fun e _ => growsTo_mapAggregate e fun a => ⟨fun _ => rfl, rfl,
      List.prefix_rfl, List.prefix_append _ _⟩
  | fillEnumeration texts description kind bound found empty =>
    refine Index.growsTo_modify fun e he => ?_
    obtain rfl := Option.some.inj (found.symm.trans he)
    exact ⟨fun _ => rfl, fun hc => absurd empty hc⟩
  | addEnumeration => exact Index.growsTo_add ..
  | addFunction => exact Index.growsTo_add ..
  | addCallback => exact Index.growsTo_add ..
  | addConstant => exact Index.growsTo_add ..

/-- A step keeps the indexes that were reached, and adds its own at most. -/
theorem Step.reached (h : Step r s t) :
    t.reached = s.reached ∨ t.reached = t.index :: s.reached := by
  cases h with
  | warn => exact .inl rfl
  | breakOff => exact .inl rfl
  | _ => exact .inr rfl

theorem Path.growsTo (h : Path r s t) : s.index.GrowsTo t.index := by
  induction h with
  | refl => exact .refl _
  | tail _ step ih => exact ih.trans step.growsTo

theorem Path.mem_reached (h : Path r s t) {i : Index} (hi : i ∈ s.reached) : i ∈ t.reached := by
  induction h with
  | refl => exact hi
  | tail _ step ih =>
    rcases step.reached with he | he
    · rw [he]; exact ih
    · rw [he]; exact List.mem_cons_of_mem _ ih

/-- **Every index of a run grows out of every earlier one.** -/
theorem Path.pairwise (h : Path r s t)
    (hs : s.reached.Pairwise fun later earlier => earlier.GrowsTo later) :
    t.reached.Pairwise fun later earlier => earlier.GrowsTo later := by
  induction h with
  | refl => exact hs
  | @tail u t _ step ih =>
    rcases step.reached with he | he
    · rw [he]; exact ih
    · rw [he]
      refine List.pairwise_cons.2 ⟨fun i hi => ?_, ih⟩
      -- the index before the step is the latest of those reached so far
      rcases List.mem_cons.1 hi with rfl | hi
      · exact step.growsTo
      · exact ((List.pairwise_cons.1 ih).1 i hi).trans step.growsTo

/-- What holds of each index when it is reached, and of the ones before it ever after, holds of all
indexes of a run. -/
theorem Path.reached {P : State → Index → Prop} (h : Path r s t) (hs : ∀ i ∈ s.reached, P s i)
    (hkeep : ∀ u v i, Step r u v → P u i → P v i)
    (hstep : ∀ u v, Path r s u → Step r u v → (∀ i ∈ u.reached, P u i) → P v v.index) :
    ∀ i ∈ t.reached, P t i := by
  induction h with
  | refl => exact hs
  | @tail u t path step ih =>
    intro i hi
    rcases step.reached with he | he <;> rw [he] at hi
    · exact hkeep _ _ i step (ih i hi)
    · rcases List.mem_cons.1 hi with rfl | hi
      · exact hstep _ _ path step ih
      · exact hkeep _ _ i step (ih i hi)

/-- Where something comes from that is seen of entities.  If each step leaves it alone or gives it a
source, which it has for as long as it is left alone, then in a run it is what it was at the start or
has a source. -/
theorem Path.provenance {α : Type} {view : Index → EntityId → α} {Source : Index → EntityId → Prop}
    (h : Path r s t)
    (hstep : ∀ u v, Step r u v → ∀ id, view v.index id = view u.index id ∨ Source v.index id)
    (hstays : ∀ i j id, i.GrowsTo j → view j id = view i id → Source i id → Source j id)
    {start : Index} (hs : ∀ i ∈ s.reached, ∀ id, view i id = view start id ∨ Source i id) :
    ∀ i ∈ t.reached, ∀ id, view i id = view start id ∨ Source i id := by
  refine h.reached (P := fun _ i => ∀ id, view i id = view start id ∨ Source i id) hs
    (fun _ _ _ _ hi => hi) fun u v _ step hu id => ?_
  rcases hstep u v step id with hsame | hsource
  · rw [hsame]
    exact (hu _ u.index_mem_reached id).imp_right (hstays _ _ id step.growsTo hsame)
  · exact .inr hsource

/-! ## What stays true -/

/-- What holds at a state and after every step from it. -/
def Stable (r : Resolver) (p : State → Prop) : Prop := ∀ s t, Step r s t → p s → p t

theorem Stable.path {p : State → Prop} (hp : Stable r p) (h : Path r s t) (hs : p s) : p t := by
  induction h with
  | refl => exact hs
  | tail _ step ih => exact hp _ _ step ih

theorem Stable.const (p : Prop) : Stable r fun _ => p := fun _ _ _ h => h

/-- A type that was resolved stays resolved. -/
theorem stable_resolved (resolution : Resolution CType) (type : CType) :
    Stable r fun s => Resolved resolution s type :=
  fun _ _ h ⟨i, hi, hr, hj⟩ =>
    ⟨i, Path.mem_reached (.single h) hi, hr, Path.mem_reached (.single h) hj⟩

theorem stable_readsInOrder (first : Index) (declared : List Cursor) (parameters : List Parameter)
    (last : Index) : Stable r fun s => ReadsInOrder r s first declared parameters last := by
  intro s t h hs
  induction hs with
  | nil passed => exact .nil (Path.mem_reached (.single h) passed)
  | cons passed resolved _ ih => exact .cons (Path.mem_reached (.single h) passed) resolved ih

theorem stable_readsArgument (argument : TypeRef × Option Cursor) (p : Parameter) :
    Stable r fun s => ReadsArgument r s argument p := by
  rintro s t h ⟨before, hbefore, after, hafter, hread⟩
  exact ⟨before, Path.mem_reached (.single h) hbefore, after, Path.mem_reached (.single h) hafter,
    hread⟩

/-- What was read from a declaration was so ever after. -/
theorem stable_readsSignature (before : Index) (cursor : Cursor) (result : CType)
    (parameters : List Parameter) :
    Stable r fun s => ReadsSignature r s before cursor result parameters :=
  fun s t h ⟨passed, middle, last, hresult, hparameters⟩ =>
    ⟨Path.mem_reached (.single h) passed, middle, last, hresult,
      stable_readsInOrder _ _ _ _ s t h hparameters⟩

theorem stable_readsFunction (before : Index) (position : Nat) (comment : List String) (c : Callable) :
    Stable r fun s => ReadsFunction r s before position comment c := by
  intro s t h hs
  obtain ⟨parameters, hsignature, hdescribed⟩ := hs.signature
  exact { hs with
    signature := ⟨parameters, stable_readsSignature _ _ _ _ s t h hsignature, hdescribed⟩ }

theorem stable_readFrom (position : Nat) (c : Callable) :
    Stable r fun s => ReadFrom r s position c :=
  fun s t h ⟨before, comment, hs⟩ => ⟨before, comment, stable_readsFunction before position comment c s t h hs⟩

theorem forall_mem_of_forall₂ {α β : Type} {R : α → β → Prop} {p : β → Prop} {l : List α}
    {m : List β} (h : List.Forall₂ R l m) (hp : ∀ a b, R a b → p b) : ∀ b ∈ m, p b := by
  induction h with
  | nil => exact fun b hb => absurd hb List.not_mem_nil
  | cons hab _ ih =>
    intro b hb
    rcases List.mem_cons.1 hb with rfl | hb
    · exact hp _ _ hab
    · exact ih b hb

theorem ReadsArgument.resolved {argument : TypeRef × Option Cursor} {p : Parameter}
    (h : ReadsArgument r s argument p) : ∃ source, Resolved (r.resolve source) s p.type := by
  obtain ⟨before, hbefore, after, hafter, hresolve, _⟩ := h
  exact ⟨_, before, hbefore, by rw [hresolve], by rw [hresolve]; exact hafter⟩

/-! ## Functions that were read -/

namespace ReadsInOrder

variable {first last : Index} {declared : List Cursor} {parameters : List Parameter}

theorem first_mem (h : ReadsInOrder r s first declared parameters last) : first ∈ s.reached := by
  cases h with
  | nil passed => exact passed
  | cons passed => exact passed

/-- What holds of every parameter with a type that comes out at an index of the run. -/
theorem forall_mem {P : Parameter → Prop} (h : ReadsInOrder r s first declared parameters last)
    (hP : ∀ before after type, ∀ cursor : Cursor, before ∈ s.reached → after ∈ s.reached →
      r.resolve cursor.type before = (.ok type, after) →
      P (parameterOf after (cursor.name r.prefixes) type (hasBracket r.unit cursor))) :
    ∀ p ∈ parameters, P p := by
  induction h with
  | nil => exact fun p hp => absurd hp List.not_mem_nil
  | cons passed resolved more ih =>
    intro p hp
    rcases List.mem_cons.1 hp with rfl | hp
    · exact hP _ _ _ _ passed more.first_mem resolved
    · exact ih p hp

theorem map_isArray (h : ReadsInOrder r s first declared parameters last) :
    parameters.map (·.isArray) = declared.map (hasBracket r.unit) := by
  induction h with
  | nil => rfl
  | cons _ _ _ ih => rw [List.map_cons, List.map_cons, ih, parameterOf]

theorem resolved (h : ReadsInOrder r s first declared parameters last) :
    ∀ p ∈ parameters, ∃ source, Resolved (r.resolve source) s p.type :=
  h.forall_mem fun before _ _ cursor hbefore hafter hresolve =>
    ⟨cursor.type, before, hbefore, by rw [hresolve, parameterOf], by rw [hresolve]; exact hafter⟩

end ReadsInOrder

theorem ReadFrom.name {position : Nat} {c : Callable} (h : ReadFrom r s position c) :
    c.name = (r.unit.cursor position).name r.prefixes := by
  obtain ⟨_, _, hread⟩ := h
  exact hread.name

end HeaderIndex.Reader
