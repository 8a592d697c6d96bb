import HeaderIndex.Proofs.Resolve.Placeholder

/-!
# Resolving again

Resolving a type answers the same however often it is done, and an answer that is refused leaves no
trace.

* `AddsPlaceholder` — what putting a placeholder into an index changes.
* `Framed` — what a resolution may do to an index, whichever it is.
* `record?_again` — the aggregate that a declaration stands for is the same once it is in the index.
* `steady_pointer`, `steady_resolveWithin` — so is what a type resolves to, and where there is no
  answer, nothing was put into the index on the way.
* `resolve_framed` — both together, for values and for members.
* `isVisible_withShown` — any declarations at all can be the visible ones.
-/

namespace HeaderIndex.Resolver

variable {r : Resolver} {i j : Index}

/-! ## What a resolution may do -/

/-- An index with one entry more: an empty placeholder for a structure or union that is visible and
was not in it. -/
structure AddsPlaceholder (r : Resolver) (position : Nat) (i j : Index) : Prop where
  declared : (r.unit.cursor position).kind ≠ .noDeclaration
  record : ∃ type, (r.unit.type type).kind = .record ∧
    (r.unit.type type).declaration = some position
  visible : r.isVisible (r.unit.cursor position) = true
  free : i.contains (.type (r.unit.canonicalCursor position)) = false
  /-- it has a name, but neither a description nor fields nor methods -/
  entities : j.entities = i.entities ++ [.aggregate {
    name := (r.unit.cursor position).name r.prefixes
    isUnion := (r.unit.cursor position).kind = .unionDecl
    description := []
    fields := []
    methods := [] }]
  bindings : j.bindings =
    i.bindings ++ [(.type (r.unit.canonicalCursor position), i.entities.length)]

/-- What a resolution may do to an index. -/
structure Framed (r : Resolver) (resolution : Resolution CType) : Prop where
  /-- the index stays as it is, or has one placeholder more behind everything that was in it -/
  frame (i : Index) :
    (resolution i).2 = i ∨ ∃ position, r.AddsPlaceholder position i (resolution i).2
  /-- a type without an answer changes nothing -/
  refused (i : Index) {error : TypeError} (h : (resolution i).1 = .error error) :
    (resolution i).2 = i
  /-- from the index that it led to, it has the same answer and changes nothing -/
  again (i : Index) : resolution (resolution i).2 = resolution i

theorem Mentions.cases (h : r.Mentions i j) :
    j = i ∨ ∃ position, r.AddsPlaceholder position i j := by
  cases h with
  | nothing => exact .inl rfl
  | @placeholder type position record declared present free visible =>
    refine .inr ⟨position, present, ⟨type, record, declared⟩, visible, ?_, ?_, ?_⟩
    · simp [Index.contains, free]
    · rw [Index.add_of_free free]
      rfl
    · rw [Index.add_of_free free]

/-! ## Aggregates behind declarations -/

theorem record?_snd_of_eq_none {reference : Option Nat}
    (h : (r.record? reference i).1 = none) : (r.record? reference i).2 = i := by
  unfold record? at h ⊢
  dsimp only at h ⊢
  split
  · rfl
  · split
    · rfl
    · split
      · simp_all
      · rfl

theorem record?_of_aggregateAt? {reference : Option Nat} {id : EntityId}
    (h : j.aggregateAt? (r.unit.declarationKey reference) = some id) :
    r.record? reference j = (some id, j) := by
  obtain ⟨hdeclared, hlookup, _⟩ := Index.aggregateAt?_eq_some.1 h
  have hcontains : j.contains (r.unit.declarationKey reference) = true := by
    simp [Index.contains, hlookup]
  unfold record?
  dsimp only
  rw [if_neg hdeclared, if_pos hcontains, h]

/-- **An aggregate that was put into the index is found there.** -/
theorem record?_again (reference : Option Nat) (i : Index) :
    r.record? reference (r.record? reference i).2 = r.record? reference i := by
  cases hfound : (r.record? reference i).1 with
  | none => rw [record?_snd_of_eq_none hfound]
  | some id =>
    have hrecord : r.record? reference i = (some id, (r.record? reference i).2) :=
      Prod.ext hfound rfl
    rw [record?_of_aggregateAt? (record?_eq_some hrecord)]
    exact hrecord.symm

/-! ## Resolving -/

/-- Whether a resolution changes nothing where it has no answer, and has the same answer again. -/
def Steady (resolution : Resolution CType) : Prop :=
  ∀ i, ((∃ error, (resolution i).1 = .error error) → (resolution i).2 = i) ∧
    resolution (resolution i).2 = resolution i

namespace Steady

variable {resolution : Resolution CType}

theorem of_unchanged (h : ∀ i, (resolution i).2 = i) : Steady resolution :=
  fun i => ⟨fun _ => h i, by rw [h i]⟩

/-- Answers can be put into a larger type. -/
theorem wrap (h : Steady resolution) (f : CType → CType) :
    Steady fun i => ((resolution i).1.map f, (resolution i).2) := by
  intro i
  obtain ⟨hrefused, hagain⟩ := h i
  refine ⟨fun ⟨error, herror⟩ => hrefused ?_, by dsimp only; rw [hagain]⟩
  cases hanswer : (resolution i).1 with
  | ok type =>
    dsimp only at herror
    rw [hanswer] at herror
    cases herror
  | error error => exact ⟨error, rfl⟩

end Steady

/-- A pointer to a structure or union, by what its declaration stands for. -/
theorem pointer_of_record {pointee : TypeRef} (h : (r.unit.type pointee).kind = .record)
    (named : TypeRef) (depth : Nat) (i : Index) :
    r.pointer named pointee depth i =
      (match (r.record? (r.unit.type pointee).declaration i).1 with
        | some id => .ok (.entity id)
        | none => r.namedPointer named depth,
      (r.record? (r.unit.type pointee).declaration i).2) := by
  have hchar : TypeKind.record.isPlainChar = false := rfl
  unfold pointer
  simp only [h, hchar]
  rcases r.record? (r.unit.type pointee).declaration i with ⟨_ | id, j⟩ <;> rfl

theorem pointer_snd_of_ne_record {pointee : TypeRef} (h : (r.unit.type pointee).kind ≠ .record)
    (named : TypeRef) (depth : Nat) (i : Index) : (r.pointer named pointee depth i).2 = i := by
  unfold pointer
  simp only [if_neg h]
  split
  · rfl
  · split
    · split <;> rfl
    · rfl

theorem steady_pointer (named pointee : TypeRef) (depth : Nat) :
    Steady (r.pointer named pointee depth) := by
  by_cases h : (r.unit.type pointee).kind = .record
  · intro i
    rw [pointer_of_record h, pointer_of_record h]
    dsimp only
    rw [record?_again]
    refine ⟨fun hrefused => ?_, rfl⟩
    -- a placeholder is an answer
    cases hfound : (r.record? (r.unit.type pointee).declaration i).1 with
    | none => exact record?_snd_of_eq_none hfound
    | some id =>
      rw [hfound] at hrefused
      obtain ⟨_, herror⟩ := hrefused
      cases herror
  · exact .of_unchanged (pointer_snd_of_ne_record h named depth)

theorem resolveWithin_of_pointer {type : TypeRef}
    (h : (r.unit.type (r.unit.canonicalType type)).kind = .pointer) (levels : Nat) :
    r.resolveWithin (levels + 1) type =
      r.pointer type (r.unit.type (r.unit.canonicalType type)).pointee 0 := by
  funext i
  simp [resolveWithin, h, TypeKind.isPrimitive]

theorem resolveWithin_of_unsizedArray {type : TypeRef}
    (h : (r.unit.type (r.unit.canonicalType type)).kind.isUnsizedArray = true) (levels : Nat) :
    r.resolveWithin (levels + 1) type =
      r.pointer (r.elementOf type).element (r.unit.canonicalType (r.elementOf type).element) 1 := by
  funext i
  have hkind : (r.unit.type (r.unit.canonicalType type)).kind = .incompleteArray ∨
      (r.unit.type (r.unit.canonicalType type)).kind = .variableArray := by
    simpa [TypeKind.isUnsizedArray] using h
  rcases hkind with hkind | hkind <;>
    simp [resolveWithin, hkind, TypeKind.isPrimitive, TypeKind.isUnsizedArray]

theorem resolveWithin_of_constantArray {type : TypeRef}
    (h : (r.unit.type (r.unit.canonicalType type)).kind = .constantArray) (levels : Nat) :
    r.resolveWithin (levels + 1) type = fun i =>
      ((r.resolveWithin levels (r.elementOf type).element i).1.map
          fun element => .array element (r.elementOf type).count,
        (r.resolveWithin levels (r.elementOf type).element i).2) := by
  funext i
  simp only [resolveWithin, h]
  rcases r.resolveWithin levels (r.elementOf type).element i with ⟨_ | _, j⟩ <;> rfl

/-- A type that is walked down one level is answered from the index alone, as a pointer, or by what
its elements resolve to. -/
theorem resolveWithin_cases (levels : Nat) (type : TypeRef) :
    (∀ i, (r.resolveWithin (levels + 1) type i).2 = i) ∨
      (∃ named pointee depth,
        r.resolveWithin (levels + 1) type = r.pointer named pointee depth) ∨
      ∃ f : CType → CType, r.resolveWithin (levels + 1) type = fun i =>
        ((r.resolveWithin levels (r.elementOf type).element i).1.map f,
          (r.resolveWithin levels (r.elementOf type).element i).2) := by
  by_cases hpointer : (r.unit.type (r.unit.canonicalType type)).kind = .pointer
  · exact .inr (.inl ⟨_, _, _, resolveWithin_of_pointer hpointer levels⟩)
  by_cases hunsized : (r.unit.type (r.unit.canonicalType type)).kind.isUnsizedArray = true
  · exact .inr (.inl ⟨_, _, _, resolveWithin_of_unsizedArray hunsized levels⟩)
  by_cases harray : (r.unit.type (r.unit.canonicalType type)).kind = .constantArray
  · exact .inr (.inr ⟨_, resolveWithin_of_constantArray harray levels⟩)
  · refine .inl fun i => ?_
    unfold resolveWithin
    simp only [if_neg hpointer, if_neg hunsized, if_neg harray]
    split
    · rfl
    split
    · split <;> rfl
    split
    · split <;> rfl
    split <;> rfl

theorem steady_resolveWithin (levels : Nat) (type : TypeRef) :
    Steady (r.resolveWithin levels type) := by
  induction levels generalizing type with
  | zero => exact .of_unchanged fun _ => rfl
  | succ levels ih =>
    rcases r.resolveWithin_cases levels type with hunchanged | hpointer | helements
    · exact .of_unchanged hunchanged
    · obtain ⟨named, pointee, depth, heq⟩ := hpointer
      rw [heq]
      exact steady_pointer named pointee depth
    · obtain ⟨f, heq⟩ := helements
      rw [heq]
      exact (ih _).wrap f

theorem steady_resolve (type : TypeRef) : Steady (r.resolve type) := steady_resolveWithin _ type

theorem steady_resolveMember (type : TypeRef) : Steady (r.resolveMember type) := by
  by_cases hflexible : (r.unit.type (r.unit.canonicalType type)).kind = .incompleteArray
  · have heq : r.resolveMember type = fun i =>
        ((r.resolve (r.elementOf type).element i).1.map fun element => .array element 0,
          (r.resolve (r.elementOf type).element i).2) := by
      funext i
      unfold resolveMember
      rw [if_pos hflexible]
      rcases r.resolve (r.elementOf type).element i with ⟨_ | _, j⟩ <;> rfl
    rw [heq]
    exact (steady_resolve _).wrap _
  · have heq : r.resolveMember type = r.resolve type := by
      funext i
      unfold resolveMember
      rw [if_neg hflexible]
    rw [heq]
    exact steady_resolve type

theorem Steady.framed {resolution : Resolution CType} (h : Steady resolution)
    (hmentions : ∀ i, r.Mentions i (resolution i).2) : Framed r resolution where
  frame i := (hmentions i).cases
  refused i _ herror := (h i).1 ⟨_, herror⟩
  again i := (h i).2

/-- **Resolving is framed, leaves no trace where it is refused, and can be done again**, for every
type of a value and of a member. -/
theorem resolve_framed (r : Resolver) (type : TypeRef) :
    Framed r (r.resolve type) ∧ Framed r (r.resolveMember type) :=
  ⟨(steady_resolve type).framed (mentions_resolve type),
    (steady_resolveMember type).framed (mentions_resolveMember type)⟩

/-! ## Visible declarations -/

/-- The resolver with other declarations in visible files, by position. -/
def withShown (r : Resolver) (shown : Nat → Bool) : Resolver where
  unit := { r.unit with
    files := #["shown"]
    cursors := r.unit.cursors.mapIdx fun position cursor =>
      { cursor with location := if shown position then .startOf 0 else .missing } }
  prefixes := r.prefixes
  visible := ["shown"]

/-- **Any declarations at all can be the visible ones**: their files say no more about them. -/
theorem isVisible_withShown (r : Resolver) (shown : Nat → Bool) {position : Nat}
    (h : position < r.unit.cursors.size) :
    (r.withShown shown).unit.cursor position = { r.unit.cursor position with
        location := if shown position then .startOf 0 else .missing } ∧
      (r.withShown shown).isVisible ((r.withShown shown).unit.cursor position) =
        shown position := by
  have hcursor : (r.withShown shown).unit.cursor position = { r.unit.cursor position with
      location := if shown position then .startOf 0 else .missing } := by
    simp [withShown, ParsedUnit.cursor, h]
  refine ⟨hcursor, ?_⟩
  rw [hcursor]
  cases shown position <;>
    simp [withShown, isVisible, ParsedUnit.fileName?, Location.startOf, Location.missing]

end HeaderIndex.Resolver
