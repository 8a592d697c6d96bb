import HeaderIndex.Proofs.Reader.Ensures

/-!
# The sort of what is declared

* `Sorted` — what stands under the key of a declaration is of the sort that this declares.
* `Step.sorted` — where all declarations of one thing are of one kind, every step keeps this.
* `ensures_readDeclaration_conflict` — a key is found taken only where a structure or union is to be
  made known.
* `reached_sorted` — so every index that reading passes through is sorted, and no key is found taken.
-/

namespace HeaderIndex

/-- Whether an entity is of the sort that a kind of declaration declares. -/
def Entity.IsDeclaredBy (kind : CursorKind) : Entity → Prop
  | aggregate a => kind.isAggregate = true ∧ (a.isUnion = true ↔ kind = .unionDecl)
  | enumeration _ => kind = .enumDecl
  | callable c => kind = .typedefDecl ∧ c.isCallback = true
  | constant _ => False

theorem Entity.IsDeclaredBy.growsTo {kind : CursorKind} {e f : Entity} (h : e.GrowsTo f)
    (he : e.IsDeclaredBy kind) : f.IsDeclaredBy kind := by
  cases e with
  | aggregate a =>
    obtain ⟨a', rfl, _, hu⟩ := h.aggregate
    obtain ⟨hkind, hunion⟩ := he
    exact ⟨hkind, by rw [hu]; exact hunion⟩
  | enumeration e =>
    obtain ⟨e', rfl⟩ := h.enumeration
    exact he
  | callable c => rw [h.callable]; exact he
  | constant c => cases he

/-- Only a structure or union is declared by one. -/
theorem Entity.IsDeclaredBy.isAggregate {kind : CursorKind} {e : Entity} (he : e.IsDeclaredBy kind)
    (hk : kind.isAggregate = true) : ∃ a, e = .aggregate a := by
  cases e with
  | aggregate a => exact ⟨a, rfl⟩
  | enumeration e => rw [show kind = .enumDecl from he] at hk; cases hk
  | callable c => rw [he.1] at hk; cases hk
  | constant c => cases he

/-- What a front-end promises about declarations and the types they declare. -/
structure Coherent (unit : ParsedUnit) : Prop where
  /-- all declarations of one thing are of one kind -/
  kinds : ∀ position,
    (unit.cursor (unit.canonicalCursor position)).kind = (unit.cursor position).kind
  declared : Resolver.DeclaresTypes unit
  /-- a record is declared as a structure or union, if at all -/
  records : ∀ type position, (unit.type type).kind = .record →
    (unit.type type).declaration = some position →
    (unit.cursor position).kind = .noDeclaration ∨ (unit.cursor position).kind.isAggregate = true

/-- The key of a declaration with a type leads to its first declaration, which is of its kind. -/
theorem Coherent.kind_of_typeKey {unit : ParsedUnit} (h : Coherent unit) {position first : Nat}
    (hk : (unit.cursor position).kind.isTag = true ∨ (unit.cursor position).kind = .typedefDecl)
    (hkey : unit.typeKey (unit.cursor position).type = .type first) :
    (unit.cursor first).kind = (unit.cursor position).kind := by
  rw [h.declared position hk] at hkey
  cases hkey
  exact h.kinds position

/-- The promise is about the rows of the tables: what is not in them is missing. -/
theorem Coherent.of_rows {unit : ParsedUnit}
    (kinds : ∀ position < unit.cursors.size,
      (unit.cursor (unit.canonicalCursor position)).kind = (unit.cursor position).kind)
    (declared : ∀ position < unit.cursors.size,
      (unit.cursor position).kind.isTag = true ∨ (unit.cursor position).kind = .typedefDecl →
        unit.typeKey (unit.cursor position).type = .type (unit.canonicalCursor position))
    (records : ∀ row < unit.types.size, (unit.type (some row)).kind = .record →
      ∀ position ∈ (unit.type (some row)).declaration,
        (unit.cursor position).kind = .noDeclaration ∨
          (unit.cursor position).kind.isAggregate = true) :
    Coherent unit := by
  refine ⟨?_, .of_rows declared, ?_⟩
  · intro position
    rcases Nat.lt_or_ge position unit.cursors.size with hlt | hge
    · exact kinds position hlt
    · have hmissing := ParsedUnit.cursor_of_size_le hge
      have hfirst : unit.canonicalCursor position = position := by
        rw [ParsedUnit.canonicalCursor, hmissing]
        rfl
      rw [hfirst]
  · intro type position hkind hdeclared
    cases type with
    | none => cases hkind
    | some row =>
      rcases Nat.lt_or_ge row unit.types.size with hlt | hge
      · exact records row hlt hkind position hdeclared
      · rw [ParsedUnit.type_of_size_le hge] at hkind
        cases hkind

/-- Whether what stands under the key of a declaration is of the sort that it declares. -/
def Index.Sorted (unit : ParsedUnit) (index : Index) : Prop :=
  ∀ position id, index.lookup (.type position) = some id →
    ∃ e, index.entity? id = some e ∧ e.IsDeclaredBy (unit.cursor position).kind

namespace Index

variable {unit : ParsedUnit} {i j : Index} {key : Key} {id : EntityId}

theorem sorted_empty : empty.Sorted unit := fun _ _ h => nomatch h

theorem Sorted.modify {f : Entity → Entity} (h : i.Sorted unit)
    (hgrows : i.GrowsTo (i.modify id f)) : (i.modify id f).Sorted unit := by
  intro position other hl
  obtain ⟨e, he, hsort⟩ := h position other hl
  obtain ⟨e', he', hg⟩ := hgrows.entities other e he
  exact ⟨e', he', hsort.growsTo hg⟩

theorem Sorted.add {e : Entity} (h : i.Sorted unit)
    (hsort : ∀ position, key = .type position → e.IsDeclaredBy (unit.cursor position).kind) :
    (i.add key e).2.Sorted unit := by
  cases hfree : i.lookup key with
  | some taken => rw [add_of_taken hfree]; exact h
  | none =>
    intro position other hl
    cases hold : i.lookup (.type position) with
    | some id =>
      have hsame := (growsTo_add i key e).lookup hold
      obtain rfl := Option.some.inj (hsame.symm.trans hl)
      obtain ⟨e', he', hs⟩ := h position id hold
      exact ⟨e', by rw [entity?_add i key e (lt_of_entity? he')]; exact he', hs⟩
    | none =>
      rw [lookup_add, hold, Option.none_or] at hl
      split at hl
      · rename_i heq
        obtain rfl := Option.some.inj hl
        exact ⟨e, entity?_add_of_free hfree e, hsort position heq.symm⟩
      · cases hl

/-- In a sorted index a structure or union finds itself or nothing under its key. -/
theorem Sorted.placeholder_ok (h : i.Sorted unit) {position : Nat} (hkey : key = .type position)
    (hk : (unit.cursor position).kind.isAggregate = true) (name : Name) (isUnion : Bool) :
    ∃ result, i.placeholder key name isUnion = .ok result := by
  subst hkey
  cases hl : i.lookup (.type position) with
  | none => exact ⟨_, by simp only [placeholder, hl]; rfl⟩
  | some id =>
    obtain ⟨e, he, hsort⟩ := h position id hl
    obtain ⟨a, rfl⟩ := hsort.isAggregate hk
    exact ⟨_, placeholder_of_aggregate hl he name isUnion⟩

end Index

namespace Reader

variable {r : Resolver} {s t : State}

/-! ## Sorts are kept -/

theorem sorted_of_mentions {i j : Index} (coherent : Coherent r.unit) (h : r.Mentions i j)
    (hi : i.Sorted r.unit) : j.Sorted r.unit := by
  cases h with
  | nothing => exact hi
  | @placeholder type position record declared present free visible =>
    have hkind : (r.unit.cursor position).kind.isAggregate = true :=
      (coherent.records type position record declared).resolve_left present
    refine hi.add fun first hfirst => ?_
    cases hfirst
    rw [coherent.kinds position]
    exact ⟨hkind, by simp [Aggregate.placeholder]⟩

/-- **A step keeps an index sorted.** -/
theorem Step.sorted (coherent : Coherent r.unit) (h : Step r s t) (hs : s.index.Sorted r.unit) :
    t.index.Sorted r.unit := by
  have hgrows := h.growsTo
  cases h with
  | warn => exact hs
  | breakOff => exact hs
  | resolve type => exact sorted_of_mentions coherent (Resolver.mentions_resolve type s.index) hs
  | resolveMember type =>
    exact sorted_of_mentions coherent (Resolver.mentions_resolveMember type s.index) hs
  | @declare position id index kind known =>
    refine Index.of_placeholder known hs (hs.add fun first hfirst => ?_)
    have hfirst := coherent.kind_of_typeKey (.inl (CursorKind.isTag_of_isAggregate kind)) hfirst
    rw [hfirst]
    exact ⟨kind, by simp [Aggregate.placeholder]⟩
  | adoptName | describe | addField | fillEnumeration | addMethod => exact hs.modify hgrows
  | @addEnumeration position texts description kind =>
    refine hs.add fun first hfirst => ?_
    have htag : (r.unit.cursor position).kind.isTag = true := by rw [kind]; rfl
    have hfirst := coherent.kind_of_typeKey (.inl htag) hfirst
    rw [hfirst]
    exact kind
  | addFunction => exact hs.add fun first hfirst => nomatch hfirst
  | @addCallback position c kind callback named resolved =>
    refine hs.add fun first hfirst => ?_
    have hfirst := coherent.kind_of_typeKey (.inr kind) hfirst
    rw [hfirst]
    exact ⟨kind, callback⟩
  | addConstant => exact hs.add fun first hfirst => nomatch hfirst

theorem Path.sorted (coherent : Coherent r.unit) (h : Path r s t)
    (hs : ∀ i ∈ s.reached, i.Sorted r.unit) : ∀ i ∈ t.reached, i.Sorted r.unit :=
  h.reached (P := fun _ i => i.Sorted r.unit) hs (fun _ _ _ _ hi => hi)
    fun u _ _ step hu => step.sorted coherent (hu _ u.index_mem_reached)

/-! ## Where a key is found taken -/

/-- A structure or union whose key leads to something else. -/
def Conflicting (r : Resolver) (index : Index) : Prop :=
  ∃ position conflict, (r.unit.cursor position).kind.isAggregate = true ∧
    index.placeholder (r.unit.typeKey (r.unit.cursor position).type)
      ((r.unit.cursor position).name r.prefixes)
      ((r.unit.cursor position).kind = .unionDecl) = .error conflict

/-- A failure because of a taken key comes with a conflict in the index. -/
def Explained (r : Resolver) (error : ReadError) (s : State) : Prop :=
  ∀ key entity, error = .keyTaken key entity → Conflicting r s.index

theorem explained_type (place : Option Place) (error : TypeError) (s : State) :
    Explained r (.type place error) s := fun _ _ h => nomatch h

theorem explained_duplicateDefinition (aggregate : String) (s : State) :
    Explained r (.duplicateDefinition aggregate) s := fun _ _ h => nomatch h

theorem explained_endlessNesting (s : State) : Explained r .endlessNesting s :=
  fun _ _ h => nomatch h

theorem ensures_readMember_conflict {read : Nat → Action Unit} {id : EntityId} {member : Member}
    {unit : ParsedUnit} {cursor : Cursor} (hm : member ∈ members unit cursor)
    (hread : ∀ inner, (unit.cursor inner).kind.isTag = true →
      Ensures (fun _ => True) (read inner) (fun _ _ => True) (Explained r)) :
    Ensures (fun _ => True) (readMember r read id member) (fun _ _ => True) (Explained r) := by
  cases member with
  | nested inner => exact hread inner (isTag_of_mem_members hm (.inl rfl))
  | field nested child description =>
    have hrest : Ensures (fun _ => True)
        (do
          let type ← Action.resolve (r.resolveMember (r.unit.cursor child).type)
          Action.update fun index => index.modify id (Entity.mapAggregate fun a =>
            { a with fields := a.fields ++
              [⟨(r.unit.cursor child).name r.prefixes, type, description⟩] }))
        (fun _ _ => True) (Explained r) := by
      refine Ensures.bind (.trivial_of_plain (Plain.resolveMember _) explained_type) fun type => ?_
      exact Ensures.update fun _ _ => trivial
    cases nested with
    | none => exact hrest
    | some inner =>
      refine Ensures.bind (hread inner (isTag_of_mem_members hm (.inr ⟨child, description, rfl⟩)))
        fun _ => ?_
      refine Ensures.bind (.trivial_of_plain Plain.index explained_type) fun index => ?_
      refine Ensures.bind (.trivial_of_plain (plain_donateName _ _) explained_type) fun _ => ?_
      exact hrest

theorem ensures_readTagWithin_conflict (levels : Nat) {position : Nat} (comment : List String)
    (kind : (r.unit.cursor position).kind.isTag = true) :
    Ensures (fun _ => True) (readTagWithin r levels position comment) (fun _ _ => True)
      (Explained r) := by
  induction levels generalizing position comment with
  | zero => exact Ensures.fail fun s _ => explained_endlessNesting s
  | succ levels ih =>
    unfold readTagWithin
    dsimp only
    split
    · exact .trivial_of_plain (plain_readEnumeration _ comment) explained_type
    rename_i hk
    have haggregate : (r.unit.cursor position).kind.isAggregate = true := by
      simpa [CursorKind.isTag, hk] using kind
    unfold readAggregate
    refine Ensures.bind (Q := fun _ _ => True) ?_ fun id => ?_
    · intro s _
      refine ⟨fun _ _ => trivial, fun error he => ?_⟩
      unfold Action.placeholder at he ⊢
      split at he
      · cases he
      · rename_i conflict hconflict
        exact fun _ _ _ => ⟨position, conflict, haggregate, hconflict⟩
    refine Ensures.bind (.trivial_of_plain (Plain.adoptName _ _) explained_type) fun _ => ?_
    split
    · exact Ensures.pure fun _ _ => trivial
    refine Ensures.bind (.trivial_of_plain Plain.index explained_type) fun index => ?_
    split
    · rename_i error herror
      obtain ⟨-, rfl⟩ := definitionError?_eq_some_iff.1 herror
      exact Ensures.fail fun s _ => explained_duplicateDefinition _ s
    refine Ensures.bind (Q := fun _ _ => True) (Ensures.update fun _ _ => trivial) fun _ => ?_
    refine Ensures.each (fun _ _ => True) fun done member rest heq => ?_
    have hm : member ∈ members r.unit (r.unit.cursor position) := by rw [heq]; simp
    exact ensures_readMember_conflict hm fun inner hi => ih [] hi

/-- **A key is found taken only in conflict**: there is a structure or union whose key leads to
something else. -/
theorem ensures_readDeclaration_conflict (config : Config) (position : Nat)
    (comment : List String) :
    Ensures (fun _ => True) (readDeclaration config r position comment) (fun _ _ => True)
      (Explained r) := by
  cases htag : (r.unit.cursor position).kind.isTag with
  | false => exact .trivial_of_plain (plain_readDeclaration config comment htag) explained_type
  | true =>
    rw [readDeclaration_of_isTag config comment htag]
    exact ensures_readTagWithin_conflict _ comment htag

/-- **What is declared keeps its sort.**  Where the declarations of one thing agree, reading from the
empty index, or from any index that is sorted, passes only through indexes where the key of a
declaration leads to a structure, a union, an enumeration or a callback just as it declares one; and
it never fails because a key is taken. -/
theorem reached_sorted (config : Config) (unit : ParsedUnit) (visible : List String)
    (coherent : Coherent unit) :
    Index.empty.Sorted unit ∧ ∀ start : Index, start.Sorted unit →
      (∀ index ∈ (readUnit config unit visible (.startingFrom start)).2.reached,
        index.Sorted unit) ∧
      ∀ key entity,
        (readUnit config unit visible (.startingFrom start)).1 ≠ .error (.keyTaken key entity) := by
  refine ⟨Index.sorted_empty, fun start hstart => ?_⟩
  have path := readUnit_path config unit visible (.startingFrom start)
  have hreached := path.sorted coherent fun i hi => by
    obtain rfl := List.mem_singleton.1 hi
    exact hstart
  refine ⟨hreached, fun key entity herror => ?_⟩
  have hexplained : Ensures (fun _ => True) (readUnit config unit visible) (fun _ _ => True)
      (Explained ⟨unit, config.prefixes, visible⟩) := by
    refine Ensures.each (fun _ _ => True) fun done declaration rest _ => ?_
    exact Ensures.inDeclaration _ (ensures_readDeclaration_conflict config _ _) explained_type
  obtain ⟨position, conflict, hk, hconflict⟩ :=
    (hexplained (.startingFrom start) trivial).2 _ herror key entity rfl
  -- the index that the run ends in is sorted, so there is no conflict in it
  have hkey := coherent.declared position (.inl (CursorKind.isTag_of_isAggregate hk))
  have hfirst : (unit.cursor (unit.canonicalCursor position)).kind.isAggregate = true := by
    rw [coherent.kinds position]
    exact hk
  obtain ⟨result, hok⟩ := (hreached _ (State.index_mem_reached _)).placeholder_ok hkey hfirst _ _
  rw [hok] at hconflict
  cases hconflict

/-- A header with a declaration of each sort:
`typedef void (*moved)(struct point *);`, `enum color { RED };`, `union value { int number; };` and
`struct point { enum color paint; };`, where the structure is mentioned before it is defined. -/
def oneOfEach : ParsedUnit where
  files := #["shape.h"]
  tokens := #[[]]
  cursors := #[
    { Cursor.missing with
      kind := .typedefDecl, spelling := "moved", location := ⟨some 0, 15, 1⟩
      type := some 0, underlying := some 1 },
    { Cursor.missing with
      kind := .enumDecl, spelling := "color", location := ⟨some 0, 46, 2⟩
      type := some 2, children := [2], isDefinition := true },
    { Cursor.missing with
      kind := .enumConstantDecl, spelling := "RED", location := ⟨some 0, 54, 2⟩ },
    { Cursor.missing with
      kind := .unionDecl, spelling := "value", location := ⟨some 0, 67, 3⟩
      type := some 3, children := [4], isDefinition := true },
    { Cursor.missing with
      kind := .fieldDecl, spelling := "number", location := ⟨some 0, 79, 3⟩, type := some 4 },
    { Cursor.missing with
      kind := .structDecl, spelling := "point", location := ⟨some 0, 97, 4⟩
      type := some 5, children := [6], isDefinition := true },
    { Cursor.missing with
      kind := .fieldDecl, spelling := "paint", location := ⟨some 0, 116, 4⟩, type := some 2 }]
  types := #[
    { SourceType.missing with
      kind := .typedef, spelling := "moved", declaration := some 0, canonical := some 1 },
    { SourceType.missing with
      kind := .pointer, spelling := "void (*)(struct point *)", pointee := some 6 },
    { SourceType.missing with kind := .enum, spelling := "enum color", declaration := some 1 },
    { SourceType.missing with kind := .record, spelling := "union value", declaration := some 3 },
    { SourceType.missing with kind := .int, spelling := "int" },
    { SourceType.missing with kind := .record, spelling := "struct point", declaration := some 5 },
    { SourceType.missing with
      kind := .functionPrototype, spelling := "void (struct point *)", result := some 8
      arguments := [some 7] },
    { SourceType.missing with kind := .pointer, spelling := "struct point *", pointee := some 5 },
    { SourceType.missing with kind := .void, spelling := "void" }]
  top := [0, 1, 3, 5]
  includes := []
  diagnostics := []

/-- The structure is made known by the callback that mentions it, and keeps its sort. -/
theorem reached_sorted_oneOfEach :
    let config : Config :=
      ⟨Settings.minimal "shape" [.path "shape.h"], by decide, by simp [Settings.minimal]⟩
    let run := readUnit config oneOfEach ["shape.h"] .initial
    Coherent oneOfEach ∧
      run.2.index.bindings = [(.type 5, 0), (.type 0, 1), (.type 1, 2), (.type 3, 3)] ∧
      (∀ index ∈ run.2.reached, index.Sorted oneOfEach) ∧
      ∀ key entity, run.1 ≠ .error (.keyTaken key entity) :=
  have coherent : Coherent oneOfEach := Coherent.of_rows (by decide) (by decide) (by decide)
  have sorted := reached_sorted _ _ _ coherent
  ⟨coherent, by decide +kernel, sorted.2 .empty sorted.1⟩

end Reader

end HeaderIndex
