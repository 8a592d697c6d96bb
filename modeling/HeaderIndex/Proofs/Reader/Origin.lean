import HeaderIndex.Proofs.Reader.Run
import HeaderIndex.Proofs.Reader.Visible

/-!
# Where the entries of an index come from

Entries are added by the readers of declarations and, for the types that these mention, by the
resolver.  Either way the declaration stands in a visible file, also where its key is that of an
earlier declaration somewhere else.

* `DeclaredIn` — a key with a declaration in a visible file.
* `Preserves` — an action reaches only indexes with a given property.  One rule for each way to build
  an action.
* `preserves_readTagWithin`, `preserves_readFunction`, `preserves_readTypedef`,
  `preserves_readMacro` — the reader of each sort of declaration binds its own key and those of
  visible records, and no other.
* `reached_declaredIn` — every entry that a reading ever has is declared in a visible file.
-/

namespace HeaderIndex

/-- Whether the cursor at a position stands in a visible file. -/
def Reader.InVisible (unit : ParsedUnit) (visible : List String) (position : Nat) : Prop :=
  ∃ file ∈ visible, Reader.fileOf unit position = some file

open Reader (InVisible fileOf)

/-- Whether all cursors stand in the file of the one around them. -/
def Reader.NestsInFiles (unit : ParsedUnit) : Prop :=
  ∀ position, ∀ child ∈ (unit.cursor position).children, fileOf unit child = fileOf unit position

/-- The promise is about the rows of the table: a missing cursor has no children. -/
theorem Reader.NestsInFiles.of_rows {unit : ParsedUnit} (h : ∀ position < unit.cursors.size,
    ∀ child ∈ (unit.cursor position).children, fileOf unit child = fileOf unit position) :
    Reader.NestsInFiles unit := by
  intro position child hchild
  rcases Nat.lt_or_ge position unit.cursors.size with hlt | hge
  · exact h position hlt child hchild
  · rw [ParsedUnit.cursor_of_size_le hge] at hchild
    cases hchild

/-- Whether what stands under a key is declared in a visible file: a type or a function by some
cursor with that first declaration, a macro by a top-level definition with that spelling. -/
inductive DeclaredIn (unit : ParsedUnit) (visible : List String) : Key → Prop
  | type {position : Nat} (shown : InVisible unit visible position) :
      DeclaredIn unit visible (.type (unit.canonicalCursor position))
  | function {position : Nat} (shown : InVisible unit visible position)
      (kind : (unit.cursor position).kind = .functionDecl) :
      DeclaredIn unit visible (.function (unit.canonicalCursor position))
  | ofMacro {position : Nat} (shown : InVisible unit visible position)
      (kind : (unit.cursor position).kind = .macroDefinition) (top : position ∈ unit.top) :
      DeclaredIn unit visible (.ofMacro (unit.cursor position).spelling)

/-- Whether every key that is bound has a property. -/
def Index.Under (K : Key → Prop) (index : Index) : Prop := ∀ entry ∈ index.bindings, K entry.1

section Under

variable {K : Key → Prop} {i j : Index} {key : Key}

theorem Index.under_empty : Index.empty.Under K := fun _ h => nomatch h

theorem Index.Under.add (h : i.Under K) (hk : K key) (e : Entity) : (i.add key e).2.Under K := by
  cases hl : i.lookup key with
  | some taken =>
    rw [Index.add_of_taken hl]
    exact h
  | none =>
    intro entry hentry
    simp only [Index.add_of_free hl, List.mem_append, List.mem_singleton] at hentry
    rcases hentry with hentry | rfl
    · exact h entry hentry
    · exact hk

theorem Index.Under.placeholder (h : i.Under K) (hk : K key) {name : Name} {isUnion : Bool}
    {id : EntityId} (hp : i.placeholder key name isUnion = .ok (id, j)) : j.Under K :=
  Index.of_placeholder hp h (h.add hk _)

/-- A record that resolving adds is declared in a visible file. -/
theorem Resolver.Mentions.under {r : Resolver} (h : r.Mentions i j)
    (hi : i.Under (DeclaredIn r.unit r.visible)) : j.Under (DeclaredIn r.unit r.visible) := by
  cases h with
  | nothing => exact hi
  | placeholder record declared present free visible =>
    refine hi.add (.type ?_) _
    obtain ⟨file, hfile, hv⟩ := (Option.any_eq_true _ _).1 visible
    exact ⟨file, by simpa using hv, hfile⟩

end Under

namespace Reader

variable {α β : Type} {r : Resolver} {P : Index → Prop} {action : Action α}

/-- Whether an action reaches only indexes with a property if only such were reached before it. -/
def Preserves (P : Index → Prop) (action : Action α) : Prop :=
  ∀ s, (∀ i ∈ s.reached, P i) → ∀ i ∈ (action s).2.reached, P i

/-! ## Rules -/

section Rules

theorem reached_goTo_of {s : State} {index : Index} (hs : ∀ i ∈ s.reached, P i) (h : P index) :
    ∀ i ∈ (s.goTo index).reached, P i := by
  intro i hi
  rcases List.mem_cons.1 hi with rfl | hi
  · exact h
  · exact hs i hi

theorem Preserves.pure (a : α) : Preserves P (Pure.pure a : Action α) := fun _ hs => hs

theorem Preserves.fail (error : ReadError) : Preserves P (Action.fail error : Action α) :=
  fun _ hs => hs

theorem Preserves.index : Preserves P Action.index := fun _ hs => hs

theorem Preserves.warn (warnings : List Warning) : Preserves P (Action.warn warnings) :=
  fun _ hs => hs

theorem Preserves.breakOff (reason : Option (List Warning)) :
    Preserves P (Action.breakOff reason) :=
  fun _ hs => hs

theorem Preserves.update {f : Index → Index} (h : ∀ i, P i → P (f i)) :
    Preserves P (Action.update f) :=
  fun s hs => reached_goTo_of hs (h s.index (hs _ s.index_mem_reached))

theorem Preserves.add {key : Key} {e : Entity} (h : ∀ i : Index, P i → P (i.add key e).2) :
    Preserves P (Action.add key e) :=
  fun s hs => reached_goTo_of hs (h s.index (hs _ s.index_mem_reached))

theorem Preserves.placeholder {key : Key} {name : Name} {isUnion : Bool}
    (h : ∀ (i j : Index) id, P i → i.placeholder key name isUnion = .ok (id, j) → P j) :
    Preserves P (Action.placeholder key name isUnion) := by
  intro s hs
  unfold Action.placeholder
  split
  · exact reached_goTo_of hs (h _ _ _ (hs _ s.index_mem_reached) ‹_›)
  · exact hs

theorem Preserves.resolution {resolution : Resolution α} (h : ∀ i, P i → P (resolution i).2) :
    Preserves P (Action.resolve resolution) := by
  intro s hs
  rw [resolve_snd]
  exact reached_goTo_of hs (h s.index (hs _ s.index_mem_reached))

theorem Preserves.bind {next : α → Action β} (h : Preserves P action)
    (hn : ∀ a, Preserves P (next a)) : Preserves P (action >>= next) := by
  intro s hs
  have hfirst := h s hs
  show ∀ i ∈ (Action.bind action next s).2.reached, P i
  unfold Action.bind
  split
  · rename_i a t ha
    rw [ha] at hfirst
    exact hn a t hfirst
  · rename_i error t ha
    rw [ha] at hfirst
    exact hfirst

theorem Preserves.each {items : List α} {step : α → Action Unit}
    (h : ∀ item ∈ items, Preserves P (step item)) : Preserves P (Action.each items step) := by
  induction items with
  | nil => exact Preserves.pure ()
  | cons item rest ih =>
    refine Preserves.bind (h item List.mem_cons_self) fun _ => ih fun other hother => ?_
    exact h other (List.mem_cons_of_mem _ hother)

theorem Preserves.collect {items : List α} {step : α → Action β}
    (h : ∀ item, Preserves P (step item)) : Preserves P (Action.collect items step) := by
  induction items with
  | nil => exact Preserves.pure []
  | cons item rest ih =>
    refine Preserves.bind (h item) fun first => ?_
    exact Preserves.bind ih fun more => Preserves.pure (first :: more)

theorem Preserves.inDeclaration (place : Place) (h : Preserves P action) :
    Preserves P (Action.inDeclaration place action) := by
  intro s hs
  have hreached := h s hs
  unfold Action.inDeclaration
  split
  · rename_i error t ht
    rw [ht] at hreached
    exact hreached
  · exact hreached

end Rules

/-! ## Actions on an index whose keys have a property -/

section Under

variable {K : Key → Prop}

theorem preserves_modify (id : EntityId) (f : Entity → Entity) :
    Preserves (Index.Under K) (Action.update fun i => i.modify id f) := .update fun _ hi => hi

theorem preserves_adoptName (id : EntityId) (name : Name) :
    Preserves (Index.Under K) (Action.update fun i => i.adoptName id name) := .update fun _ hi => hi

theorem preserves_add {key : Key} (hk : K key) (e : Entity) :
    Preserves (Index.Under K) (Action.add key e) := .add fun _ hi => hi.add hk e

theorem preserves_donateName (type : TypeRef) (name : Name) :
    Preserves (Index.Under K) (donateName r type name) := by
  refine Preserves.bind Preserves.index fun index => ?_
  split
  · exact preserves_adoptName _ name
  · exact Preserves.pure ()

theorem preserves_readEnumeration {cursor : Cursor} (hk : K (r.unit.typeKey cursor.type))
    (comment : List String) : Preserves (Index.Under K) (readEnumeration r cursor comment) := by
  unfold readEnumeration
  refine Preserves.bind Preserves.index fun index => ?_
  dsimp only
  split
  · exact Preserves.pure ()
  refine Preserves.bind (Preserves.breakOff _) fun _ => ?_
  refine Preserves.bind (Preserves.warn _) fun _ => ?_
  split
  · exact Preserves.bind (preserves_adoptName _ _) fun _ => preserves_modify _ _
  · exact Preserves.bind (preserves_add hk _) fun _ => Preserves.pure ()

theorem preserves_groupMethod (function : EntityId) (name : Name) (first : TypeRef) :
    Preserves (Index.Under K) (groupMethod r function name first) := by
  refine Preserves.bind Preserves.index fun index => ?_
  split
  · split
    · exact preserves_modify _ _
    · exact Preserves.pure ()
  · exact Preserves.pure ()

theorem preserves_readMacro {cursor : Cursor} (hk : K (.ofMacro cursor.spelling)) :
    Preserves (Index.Under K) (readMacro r cursor) := by
  unfold readMacro
  dsimp only
  split
  · exact Preserves.pure ()
  refine Preserves.bind Preserves.index fun index => ?_
  split
  · exact Preserves.pure ()
  refine Preserves.bind (Preserves.breakOff _) fun _ => ?_
  split
  · exact Preserves.bind (preserves_add hk _) fun _ => Preserves.pure ()
  · exact Preserves.warn _

end Under

/-! ## Readers that resolve types -/

section Resolving

/-- Whether an action binds only keys with a declaration in a visible file. -/
abbrev BindsVisible (r : Resolver) (action : Action α) : Prop :=
  Preserves (Index.Under (DeclaredIn r.unit r.visible)) action

theorem preserves_resolve (type : TypeRef) :
    BindsVisible r (Action.resolve (r.resolve type)) :=
  .resolution fun i hi => (Resolver.mentions_resolve type i).under hi

theorem preserves_resolveMember (type : TypeRef) :
    BindsVisible r (Action.resolve (r.resolveMember type)) :=
  .resolution fun i hi => (Resolver.mentions_resolveMember type i).under hi

theorem preserves_readParameter (cursor : Cursor) :
    BindsVisible r (readParameter r cursor) := by
  refine Preserves.bind (preserves_resolve _) fun type => ?_
  exact Preserves.bind Preserves.index fun index => Preserves.pure _

theorem preserves_readCallbackParameter (argument : TypeRef × Option Cursor) :
    BindsVisible r (readCallbackParameter r argument) := by
  rcases argument with ⟨type, _ | cursor⟩
  all_goals
    refine Preserves.bind (preserves_resolve _) fun type => ?_
    exact Preserves.bind Preserves.index fun index => Preserves.pure _

theorem preserves_readMember {read : Nat → Action Unit} {member : Member}
    (hread : ∀ inner, (member = .nested inner ∨
      ∃ field description, member = .field (some inner) field description) →
      BindsVisible r (read inner)) (id : EntityId) :
    BindsVisible r (readMember r read id member) := by
  cases member with
  | nested inner => exact hread inner (.inl rfl)
  | field nested child description =>
    have hfield : BindsVisible r
        (do
          let type ← Action.resolve (r.resolveMember (r.unit.cursor child).type)
          Action.update fun index => index.modify id (Entity.mapAggregate fun a =>
            { a with fields := a.fields ++
              [⟨(r.unit.cursor child).name r.prefixes, type, description⟩] })) :=
      Preserves.bind (preserves_resolveMember _) fun type => preserves_modify id _
    cases nested with
    | none => exact hfield
    | some inner =>
      refine Preserves.bind (hread inner (.inr ⟨child, description, rfl⟩)) fun _ => ?_
      refine Preserves.bind Preserves.index fun index => ?_
      exact Preserves.bind (preserves_donateName _ _) fun _ => hfield

/-- Nested declarations stand in the file of the one around them, so all of them are visible if the
outermost is. -/
theorem preserves_readTagWithin
    (hfiles : NestsInFiles r.unit) (htypes : Resolver.DeclaresTypes r.unit) (levels : Nat)
    {position : Nat}
    (kind : (r.unit.cursor position).kind.isTag = true)
    (shown : InVisible r.unit r.visible position) (comment : List String) :
    BindsVisible r (readTagWithin r levels position comment) := by
  induction levels generalizing position comment with
  | zero => exact Preserves.fail _
  | succ levels ih =>
    have hk : DeclaredIn r.unit r.visible (r.unit.typeKey (r.unit.cursor position).type) := by
      rw [htypes position (.inl kind)]
      exact .type shown
    unfold readTagWithin
    dsimp only
    split
    · exact preserves_readEnumeration hk comment
    unfold readAggregate
    refine Preserves.bind (Preserves.placeholder fun i j id hi hp => hi.placeholder hk hp)
      fun id => ?_
    refine Preserves.bind (preserves_adoptName _ _) fun _ => ?_
    split
    · exact Preserves.pure ()
    refine Preserves.bind Preserves.index fun index => ?_
    split
    · exact Preserves.fail _
    refine Preserves.bind (preserves_modify _ _) fun _ => ?_
    refine Preserves.each fun member hm => preserves_readMember (fun inner hinner => ?_) id
    have hchild : inner ∈ (r.unit.cursor position).children := by
      have hamong := among_of_mem_members hm
      rcases hinner with rfl | ⟨field, description, rfl⟩
      · exact hamong.1
      · exact (hamong.2.2 inner rfl).1
    have hfile : fileOf r.unit inner = fileOf r.unit position := hfiles position inner hchild
    obtain ⟨file, hv, hposition⟩ := shown
    exact ih (isTag_of_mem_members hm hinner) ⟨file, hv, hfile.trans hposition⟩ []

theorem preserves_readFunction (config : Config) {position : Nat}
    (kind : (r.unit.cursor position).kind = .functionDecl)
    (shown : InVisible r.unit r.visible position) (comment : List String) :
    BindsVisible r (readFunction config r position comment) := by
  unfold readFunction
  refine Preserves.bind Preserves.index fun index => ?_
  dsimp only
  split
  · exact Preserves.pure ()
  refine Preserves.bind (preserves_resolve _) fun result => ?_
  refine Preserves.bind (Preserves.collect preserves_readParameter) fun parameters => ?_
  refine Preserves.bind (preserves_add (.function shown kind) _) fun id => ?_
  split
  · exact Preserves.pure ()
  · exact preserves_groupMethod _ _ _

theorem preserves_readTypedef {cursor : Cursor}
    (hk : DeclaredIn r.unit r.visible (r.unit.typeKey cursor.type)) (comment : List String) :
    BindsVisible r (readTypedef r cursor comment) := by
  unfold readTypedef
  split
  · unfold readCallback
    refine Preserves.bind (preserves_resolve _) fun result => ?_
    refine Preserves.bind (Preserves.collect preserves_readCallbackParameter) fun parameters => ?_
    exact Preserves.bind (preserves_add hk _) fun _ => Preserves.pure ()
  · split
    · exact preserves_donateName _ _
    · exact Preserves.pure ()

end Resolving

/-! ## Reading a unit -/

/-- The declarations with gaps are among the given cursors, each with the name of its file. -/
theorem mem_gapsFrom {unit : ParsedUnit} {ends : Ends} {positions : List Nat}
    {declaration : Declaration} (h : declaration ∈ gapsFrom unit ends positions) :
    declaration.position ∈ positions ∧
      fileOf unit declaration.position = some declaration.file := by
  induction positions generalizing ends with
  | nil => cases h
  | cons position rest ih =>
    cases hfile : fileOf unit position with
    | none =>
      rw [gapsFrom_of_inNoFile hfile] at h
      exact ⟨List.mem_cons_of_mem _ (ih h).1, (ih h).2⟩
    | some name =>
      obtain ⟨file, hgaps⟩ := gapsFrom_of_inFile hfile
      rw [hgaps] at h
      rcases List.mem_cons.1 h with rfl | h
      · exact ⟨List.mem_cons_self, hfile⟩
      · exact ⟨List.mem_cons_of_mem _ (ih h).1, (ih h).2⟩

theorem preserves_readDeclaration (config : Config)
    (hfiles : NestsInFiles r.unit) (htypes : Resolver.DeclaresTypes r.unit) {position : Nat}
    (top : position ∈ r.unit.top) (shown : InVisible r.unit r.visible position)
    (comment : List String) :
    BindsVisible r (readDeclaration config r position comment) := by
  have htag : (r.unit.cursor position).kind.isTag = true →
      BindsVisible r (readTag r position comment) :=
    fun kind => preserves_readTagWithin hfiles htypes _ kind shown comment
  unfold readDeclaration
  dsimp only
  split
  · exact htag (by simp [*, CursorKind.isTag])
  · exact htag (by simp [*, CursorKind.isTag, CursorKind.isAggregate])
  · exact htag (by simp [*, CursorKind.isTag, CursorKind.isAggregate])
  · exact preserves_readFunction config ‹_› shown comment
  · rename_i kind
    refine preserves_readTypedef ?_ comment
    rw [htypes position (.inr kind)]
    exact .type shown
  · exact preserves_readMacro (.ofMacro shown ‹_› top)
  · exact Preserves.pure ()

/-- **Only visible declarations enter an index.**  Where nested declarations stand in the file of the
one around them and types are declared by their declarations, every entry of every index that a
reading reaches has a declaration in a visible file: also what entered as a placeholder for a type
that was only mentioned, and what was declared first in a file that is not visible. -/
theorem reached_declaredIn (config : Config) {unit : ParsedUnit} (visible : List String)
    (hfiles : NestsInFiles unit) (htypes : Resolver.DeclaresTypes unit) :
    ∀ index ∈ (readUnit config unit visible .initial).2.reached,
      ∀ entry ∈ index.bindings, DeclaredIn unit visible entry.1 := by
  have hinitial : ∀ i ∈ State.initial.reached, i.Under (DeclaredIn unit visible) := by
    intro i hi
    obtain rfl := List.mem_singleton.1 hi
    exact Index.under_empty
  refine Preserves.each (fun declaration hd => ?_) .initial hinitial
  obtain ⟨hmem, hvisible⟩ := List.mem_filter.1 hd
  obtain ⟨top, hfile⟩ := mem_gapsFrom hmem
  have shown : InVisible unit visible declaration.position := ⟨_, by simpa using hvisible, hfile⟩
  exact (preserves_readDeclaration config (r := ⟨unit, config.prefixes, visible⟩) hfiles htypes
    top shown _).inDeclaration _

/-- Two headers, of which the second is visible:
`struct point; struct shade; #define HIDDEN 1` and
`struct point { struct size { } s; }; void move(struct point *p, struct shade *q);
#define LIMIT 3`. -/
def openedPoint : ParsedUnit where
  files := #["forward.h", "point.h"]
  tokens := #[]
  cursors := #[
    { Cursor.missing with
      kind := .structDecl, spelling := "point", location := ⟨some 0, 7, 1⟩, type := some 1 },
    { Cursor.missing with
      kind := .structDecl, spelling := "shade", location := ⟨some 0, 21, 1⟩, type := some 2 },
    { Cursor.missing with
      kind := .macroDefinition, spelling := "HIDDEN", location := ⟨some 0, 36, 2⟩
      tokens := some [⟨.identifier, "HIDDEN", 36, 42, 2⟩, ⟨.literal, "1", 43, 44, 2⟩] },
    { Cursor.missing with
      kind := .structDecl, spelling := "point", location := ⟨some 1, 7, 1⟩
      stop := ⟨some 1, 36, 1⟩, canonical := some 0, type := some 1, children := [4, 5]
      isDefinition := true },
    { Cursor.missing with
      kind := .structDecl, spelling := "size", location := ⟨some 1, 22, 1⟩, type := some 3
      isDefinition := true },
    { Cursor.missing with
      kind := .fieldDecl, spelling := "s", location := ⟨some 1, 31, 1⟩, type := some 3 },
    { Cursor.missing with
      kind := .functionDecl, spelling := "move", location := ⟨some 1, 43, 2⟩
      stop := ⟨some 1, 82, 2⟩, result := some 0, children := [7, 8] },
    { Cursor.missing with
      kind := .parameterDecl, spelling := "p", location := ⟨some 1, 62, 2⟩, type := some 4 },
    { Cursor.missing with
      kind := .parameterDecl, spelling := "q", location := ⟨some 1, 79, 2⟩, type := some 5 },
    { Cursor.missing with
      kind := .macroDefinition, spelling := "LIMIT", location := ⟨some 1, 93, 3⟩
      tokens := some [⟨.identifier, "LIMIT", 93, 98, 3⟩, ⟨.literal, "3", 99, 100, 3⟩] }]
  types := #[
    { SourceType.missing with kind := .void, spelling := "void" },
    { SourceType.missing with kind := .record, spelling := "struct point", declaration := some 3 },
    { SourceType.missing with kind := .record, spelling := "struct shade", declaration := some 1 },
    { SourceType.missing with kind := .record, spelling := "struct size", declaration := some 4 },
    { SourceType.missing with kind := .pointer, spelling := "struct point *", pointee := some 1 },
    { SourceType.missing with kind := .pointer, spelling := "struct shade *", pointee := some 2 }]
  top := [2, 9, 0, 1, 3, 6]
  includes := []
  diagnostics := []

/-- The structure that is opened in the visible header is bound under its first declaration, which
stands in the other one; what is only declared there is not bound. -/
theorem reached_declaredIn_openedPoint :
    let config : Config :=
      ⟨Settings.minimal "point" [.path "point.h"], by decide, by simp [Settings.minimal]⟩
    let index := (readUnit config openedPoint ["point.h"] .initial).2.index
    NestsInFiles openedPoint ∧ Resolver.DeclaresTypes openedPoint ∧
      index.bindings.map (·.1) = [.ofMacro "LIMIT", .type 0, .type 4, .function 6] ∧
      ∀ entry ∈ index.bindings, DeclaredIn openedPoint ["point.h"] entry.1 :=
  have hfiles : NestsInFiles openedPoint := .of_rows (by decide)
  have htypes : Resolver.DeclaresTypes openedPoint := .of_rows (by decide)
  ⟨hfiles, htypes, by decide +kernel,
    reached_declaredIn _ ["point.h"] hfiles htypes _ (State.index_mem_reached _)⟩

end Reader

end HeaderIndex
