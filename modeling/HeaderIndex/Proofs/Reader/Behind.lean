import HeaderIndex.Proofs.Reader.Naming
import Mathlib.Data.List.Nodup

/-!
# The field right behind what is nested

A declaration without a name that is nested in an aggregate is called after the field right behind it,
if there is one.  Types are not looked at: the field need not use what is nested in front of it.

* `FieldBehind` — a field right behind a declaration among the parts of an aggregate.
* `adjacent_of_mem_membersFrom` — the fields that take a declaration with them are these.
* `NestedAt` — a declaration that is nested at one place only and has no name but from there.
* `CalledAfter` — the words that it has after a run, if it has any.
* `NestedAt.exists_behind` — they come from the field right behind it, in every run.
* `read_calledAfter` — and it has words from there after every reading that ends well.
* `Uses` — the fields that do use what is declared.
-/

namespace HeaderIndex.Reader

variable {r : Resolver} {t : State} {unit : ParsedUnit} {prefixes : List String}
  {position inner child : Nat}

/-! ## Right behind -/

/-- A field stands right behind a declaration among the parts of an aggregate. -/
structure FieldBehind (unit : ParsedUnit) (position inner child : Nat) : Prop where
  field : isField unit child = true
  adjacent : [inner, child] <:+: memberCursors unit position

/-- **A field takes with it what stands right in front of it**, and nothing else. -/
theorem adjacent_of_mem_membersFrom {description : List String} (stop previous : Location)
    (children : List Nat)
    (h : .field (some inner) child description ∈ membersFrom unit stop previous children) :
    isField unit child = true ∧ [inner, child] <:+: children := by
  fun_induction membersFrom unit stop previous children with
  | case1 => cases h
  | case2 previous first rest hf description next hc ih =>
    rcases List.mem_cons.1 h with heq | hmem
    · cases heq
    · exact (ih hmem).imp_right fun hinfix => hinfix.trans (List.suffix_cons first rest).isInfix
  | case3 => simp at h
  | case4 previous first hf field more hfield description next hc ih =>
    rcases List.mem_cons.1 h with heq | hmem
    · cases heq
      exact ⟨hfield, [], more, rfl⟩
    · exact (ih hmem).imp_right fun hinfix =>
        hinfix.trans ((List.suffix_cons field more).trans (List.suffix_cons first _)).isInfix
  | case5 previous first hf field more hfield ih =>
    rcases List.mem_cons.1 h with heq | hmem
    · cases heq
    · exact (ih hmem).imp_right fun hinfix =>
        hinfix.trans (List.suffix_cons first (field :: more)).isInfix

/-- At most one thing stands right behind another where everything stands once. -/
theorem eq_of_adjacent {list : List Nat} {other : Nat} (hnodup : list.Nodup)
    (h : [inner, child] <:+: list) (h' : [inner, other] <:+: list) : child = other := by
  obtain ⟨before, after, rfl⟩ := h
  obtain ⟨before', after', heq⟩ := h'
  have hsplit : before ++ inner :: child :: after = before' ++ inner :: other :: after' := by
    simpa using heq.symm
  have hnot : inner ∉ before ++ child :: after := by
    rw [List.append_assoc] at hnodup
    exact (List.nodup_cons.1 (List.nodup_middle.1 hnodup)).1
  obtain ⟨_, _, hbehind⟩ := (List.append_cons_inj_of_notMem
    (fun hmem => hnot (List.mem_append_left _ hmem))
    fun hmem => hnot (List.mem_append_right _ hmem)).1 hsplit
  exact (List.cons.inj hbehind).1

/-! ## What is nested at one place -/

/-- The words that a declaration has itself. -/
def declaredWords (unit : ParsedUnit) (prefixes : List String) (position : Nat) : List String :=
  ((unit.cursor position).name prefixes).parts

/-- What is declared at `inner` is nested in the aggregate at `position`, once and nowhere else, and has
no name but from there, as a declaration without a name has it in a source. -/
structure NestedAt (unit : ParsedUnit) (prefixes : List String) (position inner : Nat) : Prop where
  tag : (unit.cursor inner).kind.isTag = true
  /-- it is declared without a name -/
  anonymous (q : Nat) (h : unit.canonicalCursor q = unit.canonicalCursor inner) :
    declaredWords unit prefixes q = []
  /-- no typedef is around it -/
  typedefs (q around : Nat) (kind : (unit.cursor q).kind = .typedefDecl)
    (child : (unit.cursor q).children = [around])
    (h : unit.typeKey (unit.cursor around).type = unit.typeKey (unit.cursor inner).type) :
    declaredWords unit prefixes q = []
  place (q other : Nat) (member : other ∈ memberCursors unit q)
    (declared : (unit.cursor other).kind.isTag = true)
    (h : unit.typeKey (unit.cursor other).type = unit.typeKey (unit.cursor inner).type) :
    q = position ∧ other = inner
  once : (memberCursors unit position).Nodup

/-- The promise is about the rows of the table: what is not in it has neither a name nor members. -/
theorem NestedAt.of_rows (tag : (unit.cursor inner).kind.isTag = true)
    (anonymous : ∀ q < unit.cursors.size, unit.canonicalCursor q = unit.canonicalCursor inner →
      declaredWords unit prefixes q = [])
    (typedefs : ∀ q < unit.cursors.size, (unit.cursor q).kind = .typedefDecl →
      ∀ around ∈ (unit.cursor q).children,
        unit.typeKey (unit.cursor around).type = unit.typeKey (unit.cursor inner).type →
        declaredWords unit prefixes q = [])
    (place : ∀ q < unit.cursors.size, ∀ other ∈ memberCursors unit q,
      (unit.cursor other).kind.isTag = true →
      unit.typeKey (unit.cursor other).type = unit.typeKey (unit.cursor inner).type →
      q = position ∧ other = inner)
    (once : (memberCursors unit position).Nodup) : NestedAt unit prefixes position inner where
  tag := tag
  anonymous := anonymous_of_rows anonymous
  typedefs := typedefs_of_rows typedefs
  place q other hmember hdeclared hkey := by
    rcases Nat.lt_or_ge q unit.cursors.size with hlt | hge
    · exact place q hlt other hmember hdeclared hkey
    · rw [memberCursors, ParsedUnit.cursor_of_size_le hge] at hmember
      cases hmember
  once := once

/-- After a run, what is declared at `inner` has the words that the aggregate at `position` had when it
was last without words itself, and behind them those of the field at `child`. -/
structure CalledAfter (unit : ParsedUnit) (prefixes : List String) (state : State)
    (position inner child : Nat) : Prop where
  words : wordsAt unit state.index inner ≠ []
  both : ∃ last ∈ state.reached, wordsAt unit last inner = [] ∧
    (∀ i ∈ state.reached, wordsAt unit i inner = [] → i.GrowsTo last) ∧
    wordsAt unit state.index inner =
      wordsAt unit last position ++ declaredWords unit prefixes child

/-- **What is nested is called after the field right behind it**, if it is called anything, however the
run ends. -/
theorem NestedAt.exists_behind (nested : NestedAt r.unit r.prefixes position inner)
    (declares : Resolver.DeclaresTypes r.unit) (path : Path r .initial t)
    (hwords : wordsAt r.unit t.index inner ≠ []) :
    ∃ behind, FieldBehind r.unit position inner behind ∧
      CalledAfter r.unit r.prefixes t position inner behind := by
  obtain ⟨last, hreached, _, hnone, hlast, type, name, htype, source, heq⟩ :=
    exists_offer declares nested.tag nested.anonymous path hwords
  have hoffered : name.parts ≠ [] := heq ▸ hwords
  cases source with
  | @declaration q kind =>
    rw [declares q (.inl kind), declares inner (.inl nested.tag)] at htype
    exact absurd (nested.anonymous q (Key.type.inj htype)) hoffered
  | @typedef q around kind haround =>
    exact absurd (nested.typedefs q around kind haround htype) hoffered
  | @field q other field description id behind bound =>
    obtain ⟨hfield, hadjacent⟩ := adjacent_of_mem_membersFrom _ _ _ behind
    have hother := isTag_of_mem_members behind (.inr ⟨field, description, rfl⟩)
    obtain ⟨rfl, rfl⟩ := nested.place q other (hadjacent.subset List.mem_cons_self) hother htype
    refine ⟨field, ⟨hfield, hadjacent⟩, hwords, last, hreached, hnone, hlast, ?_⟩
    rw [heq, wordsAt, nameUnder_of_lookup bound]
    rfl

/-- Two fields after which something is called have the same words. -/
theorem CalledAfter.words_eq {state : State} {other : Nat}
    (h : CalledAfter unit prefixes state position inner child)
    (h' : CalledAfter unit prefixes state position inner other) :
    declaredWords unit prefixes child = declaredWords unit prefixes other := by
  obtain ⟨last, hreached, hnone, hlast, heq⟩ := h.both
  obtain ⟨last', hreached', hnone', hlast', heq'⟩ := h'.both
  have howner : wordsAt unit last position = wordsAt unit last' position := by
    by_cases hempty : wordsAt unit last position = []
    · by_cases hempty' : wordsAt unit last' position = []
      · rw [hempty, hempty']
      · exact wordsAt_growsTo (hlast last' hreached' hnone') hempty'
    · exact (wordsAt_growsTo (hlast' last hreached hnone) hempty).symm
  rw [heq, howner] at heq'
  exact List.append_cancel_left heq'

/-- What is called after a field is called after every field with the same words. -/
theorem CalledAfter.congr {state : State} {other : Nat}
    (h : CalledAfter unit prefixes state position inner child)
    (hwords : declaredWords unit prefixes child = declaredWords unit prefixes other) :
    CalledAfter unit prefixes state position inner other := by
  obtain ⟨last, hreached, hnone, hlast, heq⟩ := h.both
  refine ⟨h.words, last, hreached, hnone, hlast, ?_⟩
  rw [heq, hwords]

/-! ## Fields that use what is declared -/

/-- A type is made with what is declared under a key: it is that type, or is made with it through
typedefs, pointers and arrays. -/
inductive Uses (unit : ParsedUnit) (key : Key) : TypeRef → Prop
  | declared {type : TypeRef} (h : unit.typeKey type = key) : Uses unit key type
  | canonical {type : TypeRef} (h : Uses unit key (unit.canonicalType type)) : Uses unit key type
  | pointee {type : TypeRef} (h : Uses unit key (unit.type type).pointee) : Uses unit key type
  | element {type : TypeRef} (h : Uses unit key (unit.type type).element) : Uses unit key type

/-- Nothing but what uses it gives its words to what is declared at `inner`: each field of the aggregate
at `position` after which this is called has a type that is made with it. -/
def NamedByUsers (unit : ParsedUnit) (prefixes : List String) (state : State)
    (position inner : Nat) : Prop :=
  ∀ child ∈ memberCursors unit position, isField unit child = true →
    declaredWords unit prefixes child ≠ [] → CalledAfter unit prefixes state position inner child →
    Uses unit (unit.typeKey (unit.cursor inner).type) (unit.cursor child).type

/-- What is nested in front of a field with words is called after it once its aggregate was read. -/
theorem NestedAt.calledAfter {config : Config} (coherent : Coherent r.unit)
    (hr : r.prefixes = config.prefixes) (nested : NestedAt r.unit r.prefixes position inner)
    (hok : (readUnit config r.unit r.visible .initial).1 = .ok ())
    (hdefinition : position ∈ definitions r.unit r.visible)
    (hbehind : FieldBehind r.unit position inner child)
    (hname : declaredWords r.unit r.prefixes child ≠ []) :
    CalledAfter r.unit r.prefixes (readUnit config r.unit r.visible .initial).2 position inner
      child := by
  obtain ⟨before, after, hsplit⟩ := hbehind.adjacent
  have hmembers : memberCursors r.unit position = before ++ inner :: child :: after := by
    simpa using hsplit.symm
  have hwords := words_of_nested coherent hr hok hdefinition hmembers nested.tag hbehind.field hname
  have hpath : Path r .initial (readUnit config r.unit r.visible .initial).2 := by
    have hresolver : r = ⟨r.unit, config.prefixes, r.visible⟩ := by rw [← hr]
    rw [hresolver]
    exact readUnit_path config r.unit r.visible .initial
  obtain ⟨behind, hother, hcalled⟩ := nested.exists_behind coherent.declared hpath hwords
  rwa [eq_of_adjacent nested.once hbehind.adjacent hother.adjacent]

/-- **What is nested is called after the field right behind it**, whatever the type of this field is.
However a reading ends, what is nested without a name has no words but those that the aggregate had
then and behind them those of the field right behind it; and it has these after every reading that ends
well.  Hence it is named by users only just if the field right behind it, and any other with the same
words, uses it. -/
theorem read_calledAfter {config : Config} {visible : List String} {answer : Except ReadError Unit}
    {state : State} (hread : readUnit config unit visible .initial = (answer, state))
    (coherent : Coherent unit) (nested : NestedAt unit config.prefixes position inner) :
    (wordsAt unit state.index inner ≠ [] → ∃ behind, FieldBehind unit position inner behind ∧
        CalledAfter unit config.prefixes state position inner behind) ∧
      (∀ child, CalledAfter unit config.prefixes state position inner child →
        ∃ behind, FieldBehind unit position inner behind ∧
          declaredWords unit config.prefixes behind = declaredWords unit config.prefixes child) ∧
      (answer = .ok () → position ∈ definitions unit visible →
        (∀ child, FieldBehind unit position inner child →
          declaredWords unit config.prefixes child ≠ [] →
          CalledAfter unit config.prefixes state position inner child) ∧
        (NamedByUsers unit config.prefixes state position inner ↔
          ∀ behind, FieldBehind unit position inner behind →
            ∀ child ∈ memberCursors unit position, isField unit child = true →
              declaredWords unit config.prefixes child ≠ [] →
              declaredWords unit config.prefixes child =
                declaredWords unit config.prefixes behind →
              Uses unit (unit.typeKey (unit.cursor inner).type) (unit.cursor child).type)) := by
  obtain ⟨rfl, rfl⟩ := Prod.ext_iff.1 hread
  have hbehind := nested.exists_behind (r := ⟨unit, config.prefixes, visible⟩) coherent.declared
    (readUnit_path config unit visible .initial)
  have hsame : ∀ child, CalledAfter unit config.prefixes (readUnit config unit visible .initial).2
      position inner child → ∃ behind, FieldBehind unit position inner behind ∧
        declaredWords unit config.prefixes behind = declaredWords unit config.prefixes child := by
    intro child hchild
    obtain ⟨behind, hfield, hcalled⟩ := hbehind hchild.words
    exact ⟨behind, hfield, hcalled.words_eq hchild⟩
  refine ⟨hbehind, hsame, fun hok hdefinition => ?_⟩
  have hcalled : ∀ child, FieldBehind unit position inner child →
      declaredWords unit config.prefixes child ≠ [] → CalledAfter unit config.prefixes
        (readUnit config unit visible .initial).2 position inner child :=
    fun _ hfield hname => nested.calledAfter (r := ⟨unit, config.prefixes, visible⟩) coherent rfl hok
      hdefinition hfield hname
  refine ⟨hcalled, ?_, ?_⟩
  · intro husers behind hfield child hchild hmember hname hwords
    have hafter := hcalled behind hfield (hwords ▸ hname)
    exact husers child hchild hmember hname (hafter.congr hwords.symm)
  · intro husers child hchild hmember hname hafter
    obtain ⟨behind, hfield, hwords⟩ := hsame child hafter
    exact husers behind hfield child hchild hmember hname hwords.symm

/-- The structure in `struct a { …; struct { int x; } in; int y; };` is called after the field that has
its type. -/
theorem read_calledAfter_linkedPair :
    let config : Config :=
      ⟨Settings.minimal "pair" [.path "pair.h"], by decide, by simp [Settings.minimal]⟩
    let run := readUnit config linkedPair ["pair.h"] .initial
    run.1 = .ok () ∧ Coherent linkedPair ∧ NestedAt linkedPair config.prefixes 1 3 ∧
      1 ∈ definitions linkedPair ["pair.h"] ∧ FieldBehind linkedPair 1 3 5 ∧
      CalledAfter linkedPair config.prefixes run.2 1 3 5 ∧
      NamedByUsers linkedPair config.prefixes run.2 1 3 := by
  intro config run
  have hok : run.1 = .ok () := by decide +kernel
  have coherent : Coherent linkedPair := Coherent.of_rows (by decide) (by decide) (by decide)
  have nested : NestedAt linkedPair config.prefixes 1 3 :=
    .of_rows (by decide) (by decide +kernel) (by decide) (by decide) (by decide)
  have hdefinition : 1 ∈ definitions linkedPair ["pair.h"] := ⟨by decide, [1], .top rfl⟩
  have hmembers : memberCursors linkedPair 1 = [2, 3, 5, 6] := by decide
  have hfield : FieldBehind linkedPair 1 3 5 := ⟨by decide, [2], [6], by rw [hmembers]; rfl⟩
  obtain ⟨_, _, hafter⟩ := read_calledAfter rfl coherent nested
  obtain ⟨hcalled, husers⟩ := hafter hok hdefinition
  refine ⟨hok, coherent, nested, hdefinition, hfield, hcalled 5 hfield (by decide +kernel),
    husers.2 fun behind hbehind child hchild hmember _ hwords => ?_⟩
  obtain rfl := eq_of_adjacent nested.once hfield.adjacent hbehind.adjacent
  -- no other field has the word `in`
  have hother : ∀ child ∈ [2, 3, 5, 6], isField linkedPair child = true →
      declaredWords linkedPair config.prefixes child = declaredWords linkedPair config.prefixes 5 →
      child = 5 := by decide +kernel
  rw [hother child (hmembers ▸ hchild) hmember hwords]
  exact .declared rfl

/-- `struct S { struct { int a; }; int x; };` -/
def anonymousMember : ParsedUnit where
  files := #["test.h"]
  tokens := #[[]]
  cursors := #[
    { Cursor.missing with
      kind := .structDecl, spelling := "S", location := ⟨some 0, 7, 1⟩, start := ⟨some 0, 0, 1⟩
      stop := ⟨some 0, 38, 1⟩, type := some 0, children := [1, 3], isDefinition := true },
    { Cursor.missing with
      kind := .structDecl, location := ⟨some 0, 11, 1⟩, start := ⟨some 0, 11, 1⟩
      stop := ⟨some 0, 28, 1⟩, type := some 1, children := [2], isDefinition := true
      isAnonymous := true },
    { Cursor.missing with
      kind := .fieldDecl, spelling := "a", location := ⟨some 0, 24, 1⟩, start := ⟨some 0, 20, 1⟩
      stop := ⟨some 0, 25, 1⟩, type := some 2 },
    { Cursor.missing with
      kind := .fieldDecl, spelling := "x", location := ⟨some 0, 34, 1⟩, start := ⟨some 0, 30, 1⟩
      stop := ⟨some 0, 35, 1⟩, type := some 2 }]
  types := #[
    { SourceType.missing with kind := .record, spelling := "struct S", declaration := some 0 },
    { SourceType.missing with
      kind := .record, spelling := "struct (anonymous)", declaration := some 1 },
    { SourceType.missing with kind := .int, spelling := "int" }]
  top := [0]
  includes := []
  diagnostics := []

/-- An integer is made with nothing that is declared. -/
theorem not_uses_of_int {type : TypeRef} {first : Nat} (h : type = some 2 ∨ type = none) :
    ¬Uses anonymousMember (.type first) type := by
  intro huses
  induction huses with
  | declared hkey => rcases h with rfl | rfl <;> cases hkey
  | canonical _ ih => rcases h with rfl | rfl <;> exact ih (by decide)
  | pointee _ ih => rcases h with rfl | rfl <;> exact ih (by decide)
  | element _ ih => rcases h with rfl | rfl <;> exact ih (by decide)

/-- **A field may name what it does not use**: the structure without a name is called after the integer
behind it. -/
theorem calledAfter_anonymousMember :
    let config : Config :=
      ⟨Settings.minimal "test" [.path "test.h"], by decide, by simp [Settings.minimal]⟩
    let run := readUnit config anonymousMember ["test.h"] .initial
    (read config anonymousMember ["test.h"]).result = .ok run.2.index ∧ Coherent anonymousMember ∧
      NestedAt anonymousMember config.prefixes 0 1 ∧
      0 ∈ definitions anonymousMember ["test.h"] ∧ wordsAt anonymousMember run.2.index 1 = ["s", "x"] ∧
      CalledAfter anonymousMember config.prefixes run.2 0 1 3 ∧
      ¬Uses anonymousMember (anonymousMember.typeKey (anonymousMember.cursor 1).type)
        (anonymousMember.cursor 3).type := by
  intro config run
  have nested : NestedAt anonymousMember config.prefixes 0 1 :=
    .of_rows (by decide) (by decide +kernel) (by decide) (by decide) (by decide)
  have coherent : Coherent anonymousMember := Coherent.of_rows (by decide) (by decide) (by decide)
  have hwords : wordsAt anonymousMember run.2.index 1 = ["s", "x"] := by decide +kernel
  obtain ⟨behind, hbehind, hcalled⟩ :=
    nested.exists_behind (r := ⟨anonymousMember, config.prefixes, ["test.h"]⟩) coherent.declared
      (readUnit_path config anonymousMember ["test.h"] .initial) (by rw [hwords]; decide)
  obtain rfl : 3 = behind := eq_of_adjacent nested.once ⟨[], [], rfl⟩ hbehind.adjacent
  exact ⟨by decide +kernel, coherent, nested, ⟨by decide, [0], .top rfl⟩, hwords, hcalled,
    not_uses_of_int (.inl rfl)⟩

end HeaderIndex.Reader
