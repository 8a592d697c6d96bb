import HeaderIndex.Proofs.Reader.Gap

/-!
# Comments inside structures

Structures, unions and enumerations close no gap, so a comment inside one of them is still in the gap
in front of what follows it.

* `CommentInside`, `Documents` — a comment within the extent of a declaration, and the comment that a
  declaration is read with.
* `Unhidden` — nothing stands between a comment and a declaration behind it.
* `offset_le_gapStart` — a gap starts behind every declaration that closed one before.
* `documents_of_inside` — a comment inside an aggregate documents a declaration behind it exactly if
  nothing stands between the two.
-/

namespace HeaderIndex.Reader

open Comment (InOrder lastComment)

/-- A comment strictly inside the extent of a declaration. -/
structure CommentInside (unit : ParsedUnit) (file : Nat) (position : Nat) (t : Token) : Prop where
  token : t ∈ tokensIn unit file
  comment : t.kind = .comment
  startFile : (unit.cursor position).start.file = some file
  stopFile : (unit.cursor position).stop.file = some file
  start : (unit.cursor position).start.offset < t.start
  stop : t.stop < (unit.cursor position).stop.offset

/-- A declaration is read with the text of a given comment. -/
def Documents (unit : ParsedUnit) (file : Nat) (t : Token) (declaration : Declaration) : Prop :=
  Comment.nearest unit .before declaration.gap (unit.cursor declaration.position).start =
    some ⟨t, some file⟩

/-- Nothing stands between a comment inside a declaration and another declaration behind it: none of
the other declarations of the file that are listed before and close gaps ends behind the start of the
comment, and no other comment comes before the declaration. -/
structure Unhidden (unit : ParsedUnit) (file : Nat) (earlier : List Nat) (around position : Nat)
    (t : Token) : Prop where
  notClosed : ∀ q ∈ earlier, q ≠ around → (unit.cursor q).location.file = some file →
    closesGap (unit.cursor q).kind = true → (unit.cursor q).stop.offset ≤ t.start
  nearest : ∀ other ∈ tokensIn unit file, other.kind = .comment → t.stop ≤ other.start →
    (unit.cursor position).start.offset < other.stop

/-! ## Gaps only move on -/

section Gaps

variable {unit : ParsedUnit} {ends : Ends} {file : Nat} {name : String}

/-- Where a gap starts does not depend on the file that it is asked for. -/
theorem offset_gapStart (ends : Ends) (file file' : Nat) (name : String) :
    (gapStart ends file name).offset = (gapStart ends file' name).offset := by
  unfold gapStart
  cases ends.lookup name <;> rfl

theorem offset_le_closeGap (file' : Nat) (name' : String) (cursor : Cursor) :
    (gapStart ends file name).offset ≤ (gapStart (closeGap ends file' name' cursor) file name).offset := by
  by_cases hname : name = name'
  · subst hname
    unfold closeGap
    split
    · rename_i hlt
      rw [offset_gapStart ends file file']
      have hnew : gapStart ((name, cursor.stop) :: ends) file name = cursor.stop := by simp [gapStart]
      rw [hnew]
      exact Nat.le_of_lt hlt.2
    · exact Nat.le_refl _
  · rw [gapStart_closeGap_of_ne hname]

theorem offset_le_endsAfter (position : Nat) :
    (gapStart ends file name).offset ≤
      (gapStart (endsAfter unit ends position) file name).offset := by
  unfold endsAfter
  dsimp only
  split
  · exact offset_le_closeGap _ _ _
  · exact Nat.le_refl _

theorem offset_le_foldl (l : List Nat) :
    (gapStart ends file name).offset ≤
      (gapStart (l.foldl (endsAfter unit) ends) file name).offset := by
  induction l generalizing ends with
  | nil => exact Nat.le_refl _
  | cons position l ih => exact (offset_le_endsAfter position).trans ih

/-- A declaration that closes gaps lies in front of the gap behind it. -/
theorem stop_le_endsAfter (named : unit.files[file]? = some name) {q : Nat}
    (located : (unit.cursor q).location.file = some file)
    (closes : closesGap (unit.cursor q).kind = true) :
    (unit.cursor q).stop.offset ≤ (gapStart (endsAfter unit ends q) file name).offset := by
  have hname : unit.fileName? (unit.cursor q).location = some name := by
    simp [ParsedUnit.fileName?, located, named]
  unfold endsAfter
  simp only [located, hname]
  unfold closeGap
  split
  · simp [gapStart]
  · rename_i hle
    simpa [closes] using hle

/-- **A gap starts behind every declaration listed before that closes gaps.** -/
theorem offset_le_gapStart (named : unit.files[file]? = some name) {l : List Nat} {q : Nat}
    (hq : q ∈ l) (located : (unit.cursor q).location.file = some file)
    (closes : closesGap (unit.cursor q).kind = true) :
    (unit.cursor q).stop.offset ≤
      (gapStart (l.foldl (endsAfter unit) ends) file name).offset := by
  obtain ⟨before, after, rfl⟩ := List.append_of_mem hq
  rw [List.foldl_append, List.foldl_cons]
  exact (stop_le_endsAfter named located closes).trans (offset_le_foldl after)

end Gaps

/-! ## Comments inside aggregates -/

variable {unit : ParsedUnit} {file : Nat} {name : String} {earlier later : List Nat}
  {position around : Nat} {t : Token}

/-- The ends of the declarations that may stand between: an aggregate is none of them. -/
theorem forall_mem_endsIn (kind : (unit.cursor around).kind.isTag = true) (place : Nat) :
    (∀ e ∈ endsIn unit file earlier, e ≤ place) ↔
      ∀ q ∈ earlier, q ≠ around → (unit.cursor q).location.file = some file →
        closesGap (unit.cursor q).kind = true → (unit.cursor q).stop.offset ≤ place := by
  simp only [endsIn, List.mem_map, List.mem_filter, decide_eq_true_eq]
  constructor
  · exact fun h q hq _ located closes => h _ ⟨_, ⟨⟨q, hq, rfl⟩, located, closes⟩, rfl⟩
  · rintro h e ⟨_, ⟨⟨q, hq, rfl⟩, located, closes⟩, rfl⟩
    refine h q hq ?_ located closes
    rintro rfl
    simp [closesGap, kind] at closes

/-- The declaration at a position, with the gap in front of it. -/
theorem gaps_eq_of_listed (listed : unit.top = earlier ++ position :: later)
    (located : (unit.cursor position).location.file = some file)
    (named : unit.files[file]? = some name) :
    ∃ after, gaps unit = gapsFrom unit [] earlier ++
      ⟨position, name, gapStart (earlier.foldl (endsAfter unit) []) file name⟩ :: after := by
  have hname : unit.fileName? (unit.cursor position).location = some name := by
    simp [ParsedUnit.fileName?, located, named]
  refine ⟨gapsFrom unit (endsAfter unit (earlier.foldl (endsAfter unit) []) position) later, ?_⟩
  unfold gaps
  rw [listed, gapsFrom_append]
  simp only [gapsFrom, endsAfter, located, hname]

/-- A declaration documented by a comment inside an aggregate has nothing between it and the
comment. -/
theorem unhidden_of_documents (inOrder : InOrder (tokensIn unit file))
    (named : unit.files[file]? = some name)
    (documents : Documents unit file t
      ⟨position, name, gapStart (earlier.foldl (endsAfter unit) []) file name⟩) :
    Unhidden unit file earlier around position t := by
  obtain ⟨hgap, hnearest⟩ := Comment.nearest_before_eq_some inOrder documents
  exact ⟨fun q hq _ located closes => (offset_le_gapStart named hq located closes).trans hgap,
    hnearest⟩

/-- In a unit whose declarations lie in their files, nothing else keeps a comment inside an aggregate
from a declaration behind. -/
theorem documents_iff_unhidden (placed : Placed unit)
    (listed : unit.top = earlier ++ position :: later)
    (located : (unit.cursor position).location.file = some file)
    (named : unit.files[file]? = some name) (kind : (unit.cursor around).kind.isTag = true)
    (inside : CommentInside unit file around t)
    (behind : (unit.cursor around).stop.offset ≤ (unit.cursor position).start.offset) :
    Documents unit file t
        ⟨position, name, gapStart (earlier.foldl (endsAfter unit) []) file name⟩ ↔
      Unhidden unit file earlier around position t := by
  have hposition : position ∈ unit.top := by simp [listed]
  have hgap := startsAt_listed placed named (l := earlier) fun p hp => by simp [listed, hp]
  obtain ⟨tokens, htokens, first, hfirst, hkind, hstart⟩ :=
    placed.first position hposition file located
  have htokens : unit.tokens[file]? = some tokens := htokens
  have hin : tokensIn unit file = tokens := by simp [tokensIn, htokens]
  have horder := placed.inOrder file
  have htoken := inside.token
  rw [hin] at horder htoken
  have hstop : t.stop ≤ (unit.cursor position).start.offset := by
    have hinside := inside.stop
    omega
  unfold Documents
  rw [Comment.nearest_eq_lastComment named htokens horder hgap.inFile
    (placed.start position hposition file located) hfirst hkind hstart hgap.offset,
    Option.map_eq_some_iff]
  have hlast : lastComment tokens (endsIn unit file earlier) (unit.cursor position).start.offset =
      some t ↔ _ := Comment.lastComment_eq_some_iff horder htoken inside.comment hstop
  rw [forall_mem_endsIn kind, ← hin] at hlast
  constructor
  · rintro ⟨token, hfound, hsame⟩
    obtain ⟨rfl, _⟩ := Comment.Found.mk.inj hsame
    rw [← hin] at hfound
    exact ⟨(hlast.1 hfound).1, (hlast.1 hfound).2⟩
  · rintro ⟨hclosed, hnearest⟩
    exact ⟨t, hin ▸ hlast.2 ⟨hclosed, hnearest⟩, rfl⟩

/-- **A comment inside an aggregate documents a declaration behind it only if nothing stands between
the two**: no other declaration of the file that closes gaps, is listed before it and ends behind the
start of the comment, and no other comment.  Where the declarations lie in their files and start with
a token, nothing else keeps the comment from it. -/
theorem documents_of_inside {unit : ParsedUnit}
    (inOrder : ∀ tokens ∈ unit.tokens.toList, InOrder tokens) {earlier later : List Nat}
    {position file : Nat} {name : String} (listed : unit.top = earlier ++ position :: later)
    (located : (unit.cursor position).location.file = some file)
    (named : unit.files[file]? = some name) {around : Nat} {t : Token}
    (kind : (unit.cursor around).kind.isTag = true) (inside : CommentInside unit file around t)
    (behind : (unit.cursor around).stop.offset ≤ (unit.cursor position).start.offset) :
    ∃ gap after, gaps unit = gapsFrom unit [] earlier ++ ⟨position, name, gap⟩ :: after ∧
      (Documents unit file t ⟨position, name, gap⟩ →
        Unhidden unit file earlier around position t) ∧
      (Placed unit → Unhidden unit file earlier around position t →
        Documents unit file t ⟨position, name, gap⟩) := by
  obtain ⟨after, hgaps⟩ := gaps_eq_of_listed listed located named
  have hfile : InOrder (tokensIn unit file) := inOrder_tokensIn inOrder file
  exact ⟨_, after, hgaps, unhidden_of_documents hfile named, fun placed =>
    (documents_iff_unhidden placed listed located named kind inside behind).2⟩

/-- A structure with a comment behind its field, and a function:
`struct a { int x; /* the x */ };` and `int f(void);` on the next line. -/
def commentedField : ParsedUnit where
  files := #["test.h"]
  tokens := #[[⟨.keyword, "struct", 0, 6, 1⟩, ⟨.identifier, "a", 7, 8, 1⟩,
    ⟨.punctuation, "\x7b", 9, 10, 1⟩, ⟨.keyword, "int", 11, 14, 1⟩, ⟨.identifier, "x", 15, 16, 1⟩,
    ⟨.punctuation, ";", 16, 17, 1⟩, ⟨.comment, "/* the x */", 18, 29, 1⟩,
    ⟨.punctuation, "\x7d", 30, 31, 1⟩, ⟨.punctuation, ";", 31, 32, 1⟩, ⟨.keyword, "int", 33, 36, 2⟩,
    ⟨.identifier, "f", 37, 38, 2⟩, ⟨.punctuation, "(", 38, 39, 2⟩, ⟨.keyword, "void", 39, 43, 2⟩,
    ⟨.punctuation, ")", 43, 44, 2⟩, ⟨.punctuation, ";", 44, 45, 2⟩]]
  cursors := #[
    { Cursor.missing with
      kind := .structDecl, spelling := "a", location := ⟨some 0, 7, 1⟩, start := ⟨some 0, 0, 1⟩
      stop := ⟨some 0, 31, 1⟩, type := some 1, children := [1], isDefinition := true },
    { Cursor.missing with
      kind := .fieldDecl, spelling := "x", location := ⟨some 0, 15, 1⟩, start := ⟨some 0, 11, 1⟩
      stop := ⟨some 0, 16, 1⟩, type := some 0 },
    { Cursor.missing with
      kind := .functionDecl, spelling := "f", location := ⟨some 0, 37, 2⟩
      start := ⟨some 0, 33, 2⟩, stop := ⟨some 0, 44, 2⟩, result := some 0 }]
  types := #[
    { SourceType.missing with kind := .int, spelling := "int" },
    { SourceType.missing with kind := .record, spelling := "struct a", declaration := some 0 }]
  top := [0, 2]
  includes := []
  diagnostics := []

theorem placed_commentedField : Placed commentedField where
  files := by decide
  tokens := by
    intro tokens htokens
    obtain rfl := List.mem_singleton.1 htokens
    exact ⟨by decide, by decide⟩
  start := by decide
  stop := by decide
  first := by decide

theorem commentInside_commentedField :
    CommentInside commentedField 0 0 ⟨.comment, "/* the x */", 18, 29, 1⟩ :=
  ⟨by decide, rfl, rfl, rfl, by decide, by decide⟩

/-- Nothing stands between the comment of the field and the function. -/
theorem documents_of_inside_commentedField :
    ∃ gap after, gaps commentedField =
        gapsFrom commentedField [] [0] ++ ⟨2, "test.h", gap⟩ :: after ∧
      Unhidden commentedField 0 [0] 0 2 ⟨.comment, "/* the x */", 18, 29, 1⟩ ∧
      Documents commentedField 0 ⟨.comment, "/* the x */", 18, 29, 1⟩ ⟨2, "test.h", gap⟩ := by
  obtain ⟨gap, after, hgaps, -, hunhidden⟩ := documents_of_inside placed_commentedField.tokens
    (show commentedField.top = [0] ++ 2 :: [] from rfl)
    (show (commentedField.cursor 2).location.file = some 0 from rfl)
    (show commentedField.files[0]? = some "test.h" from rfl)
    (show (commentedField.cursor 0).kind.isTag = true from rfl) commentInside_commentedField
    (show (commentedField.cursor 0).stop.offset ≤ (commentedField.cursor 2).start.offset by decide)
  have hnothing : Unhidden commentedField 0 [0] 0 2 ⟨.comment, "/* the x */", 18, 29, 1⟩ :=
    ⟨by decide, by decide⟩
  exact ⟨gap, after, hgaps, hnothing, hunhidden placed_commentedField hnothing⟩

/-- The comment of the field is the description of the function behind the structure. -/
theorem described_by_comment_inside :
    let config : Config :=
      ⟨Settings.minimal "test" [.path "test.h"], by decide, by simp [Settings.minimal]⟩
    (∀ tokens ∈ commentedField.tokens.toList, InOrder tokens) ∧
      (commentedField.cursor 0).kind = .structDecl ∧
      CommentInside commentedField 0 0 ⟨.comment, "/* the x */", 18, 29, 1⟩ ∧
      (commentedField.cursor 0).stop.offset ≤ (commentedField.cursor 2).start.offset ∧
      ((read config commentedField ["test.h"]).result.toOption.map fun index =>
        index.functions.map (·.description)) = some [["the x"]] :=
  ⟨placed_commentedField.tokens, rfl, commentInside_commentedField, by decide, by decide +kernel⟩

end HeaderIndex.Reader
