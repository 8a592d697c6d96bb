import HeaderIndex.Proofs.Comment.Nearest
import HeaderIndex.Reader.Run

/-!
# Comments of top-level declarations

The gap in front of a declaration starts behind all declarations that closed gaps of its file and
are listed before it.  This is the text in front of the declaration only where the order of the list
is that of the text.

* `startsAt_foldl` — the gap starts at the furthest end of the declarations listed so far.
* `comment_of_listed` — the comment handed to a declaration, and when it is the nearest one behind
  the declarations located in front.
-/

namespace HeaderIndex.Reader

open Comment (InOrder lastComment)

/-- What a front-end promises about places: files have names of their own, tokens stand one behind
the other, and a top-level declaration lies in its file and starts with a token of its own there. -/
structure Placed (unit : ParsedUnit) : Prop where
  files : unit.files.toList.Nodup
  tokens : ∀ tokens ∈ unit.tokens.toList, InOrder tokens
  start : ∀ position ∈ unit.top, ∀ file ∈ (unit.cursor position).location.file,
    (unit.cursor position).start.file = some file
  stop : ∀ position ∈ unit.top, ∀ file ∈ (unit.cursor position).location.file,
    (unit.cursor position).stop.file = some file
  first : ∀ position ∈ unit.top, ∀ file ∈ (unit.cursor position).location.file,
    ∃ tokens ∈ unit.tokens[file]?, ∃ token ∈ tokens,
      token.kind ≠ .comment ∧ token.start = (unit.cursor position).start.offset

/-- The tokens of a file. -/
def tokensIn (unit : ParsedUnit) (file : Nat) : List Token := unit.tokens[file]?.getD []

theorem inOrder_tokensIn {unit : ParsedUnit} (h : ∀ tokens ∈ unit.tokens.toList, InOrder tokens)
    (file : Nat) : InOrder (tokensIn unit file) := by
  unfold tokensIn
  cases htokens : unit.tokens[file]? with
  | none => exact ⟨.nil, fun _ ht => absurd ht List.not_mem_nil⟩
  | some tokens => exact h tokens (List.mem_of_getElem? (by simpa using htokens))

theorem Placed.inOrder {unit : ParsedUnit} (h : Placed unit) (file : Nat) :
    InOrder (tokensIn unit file) := inOrder_tokensIn h.tokens file

/-- Where those of some declarations end that close gaps of a file. -/
def endsIn (unit : ParsedUnit) (file : Nat) (positions : List Nat) : List Nat :=
  ((positions.map unit.cursor).filter fun cursor =>
    cursor.location.file = some file ∧ closesGap cursor.kind).map (·.stop.offset)

/-- The ends after one declaration more. -/
def endsAfter (unit : ParsedUnit) (ends : Ends) (position : Nat) : Ends :=
  let cursor := unit.cursor position
  match cursor.location.file, unit.fileName? cursor.location with
  | some file, some name => closeGap ends file name cursor
  | _, _ => ends

/-! ## Where a gap starts -/

section GapStart

variable {unit : ParsedUnit} {ends : Ends} {file : Nat} {name : String} {seen : List Nat}
  {position : Nat}

theorem endsIn_append (unit : ParsedUnit) (file : Nat) (l m : List Nat) :
    endsIn unit file (l ++ m) = endsIn unit file l ++ endsIn unit file m := by
  simp [endsIn]

theorem endsIn_singleton (unit : ParsedUnit) (file position : Nat) :
    endsIn unit file [position] =
      if (unit.cursor position).location.file = some file ∧
          closesGap (unit.cursor position).kind then
        [(unit.cursor position).stop.offset]
      else [] := by
  by_cases h : (unit.cursor position).location.file = some file ∧
      closesGap (unit.cursor position).kind
  · simp [endsIn, h]
  · rw [if_neg h]
    simp [endsIn] at h ⊢
    exact h

/-- A gap starts in its file, at the furthest of the ends seen so far. -/
structure StartsAt (unit : ParsedUnit) (ends : Ends) (file : Nat) (name : String)
    (seen : List Nat) : Prop where
  inFile : (gapStart ends file name).file = some file
  offset : ∀ place, (gapStart ends file name).offset ≤ place ↔
    ∀ e ∈ endsIn unit file seen, e ≤ place

theorem startsAt_nil (unit : ParsedUnit) (file : Nat) (name : String) :
    StartsAt unit [] file name [] :=
  ⟨rfl, fun place => by simp [gapStart, Location.startOf, endsIn]⟩

/-- A declaration that closes no gap of the file leaves the start of the gap where it is. -/
theorem StartsAt.of_other (h : StartsAt unit ends file name seen) {ends' : Ends}
    (hsame : gapStart ends' file name = gapStart ends file name)
    (hother : endsIn unit file [position] = []) :
    StartsAt unit ends' file name (seen ++ [position]) := by
  refine ⟨by rw [hsame]; exact h.inFile, fun place => ?_⟩
  rw [hsame, endsIn_append, hother, List.append_nil]
  exact h.offset place

theorem gapStart_closeGap_of_ne {name' : String} {file' : Nat} (hne : name ≠ name')
    (cursor : Cursor) :
    gapStart (closeGap ends file' name' cursor) file name = gapStart ends file name := by
  unfold closeGap
  split
  · have hbeq : (name == name') = false := by simpa using hne
    simp [gapStart, List.lookup_cons, hbeq]
  · rfl

/-- A declaration of the file moves the start of the gap to its end, unless that is further back. -/
theorem StartsAt.of_same (h : StartsAt unit ends file name seen)
    (hfile : (unit.cursor position).location.file = some file)
    (hstop : (unit.cursor position).stop.file = some file) :
    StartsAt unit (closeGap ends file name (unit.cursor position)) file name
      (seen ++ [position]) := by
  by_cases hcloses : closesGap (unit.cursor position).kind = true
  · have hends : endsIn unit file [position] = [(unit.cursor position).stop.offset] := by
      rw [endsIn_singleton, if_pos ⟨hfile, hcloses⟩]
    unfold closeGap
    split
    · rename_i hlt
      have hnew : gapStart ((name, (unit.cursor position).stop) :: ends) file name =
          (unit.cursor position).stop := by
        simp [gapStart]
      refine ⟨by rw [hnew]; exact hstop, fun place => ?_⟩
      rw [hnew, endsIn_append, hends]
      simp only [List.mem_append, List.mem_singleton, or_imp, forall_and, forall_eq, ← h.offset]
      omega
    · rename_i hle
      have hle : (unit.cursor position).stop.offset ≤ (gapStart ends file name).offset := by
        simpa [hcloses] using hle
      refine ⟨h.inFile, fun place => ?_⟩
      rw [endsIn_append, hends]
      simp only [List.mem_append, List.mem_singleton, or_imp, forall_and, forall_eq, ← h.offset]
      omega
  · refine h.of_other ?_ (by rw [endsIn_singleton, if_neg fun hc => hcloses hc.2])
    unfold closeGap
    rw [if_neg fun hc => hcloses hc.1]

/-- One declaration more. -/
theorem StartsAt.step (placed : Placed unit) (hname : unit.files[file]? = some name)
    (hposition : position ∈ unit.top) (h : StartsAt unit ends file name seen) :
    StartsAt unit (endsAfter unit ends position) file name (seen ++ [position]) := by
  unfold endsAfter
  dsimp only
  split
  · rename_i file' name' hfile' hname'
    have hname' : unit.files[file']? = some name' := by
      simpa [ParsedUnit.fileName?, hfile'] using hname'
    by_cases hfile : file' = file
    · subst hfile
      obtain rfl := Option.some.inj (hname.symm.trans hname')
      exact h.of_same hfile' (placed.stop position hposition file' hfile')
    · -- another file has another name
      have hne : name ≠ name' := by
        rintro rfl
        have heq : unit.files.toList[file]? = unit.files.toList[file']? := by
          rw [Array.getElem?_toList, Array.getElem?_toList, hname, hname']
        have hlt : file < unit.files.toList.length := by
          rw [Array.length_toList]
          exact (Array.getElem?_eq_some_iff.1 hname).1
        exact hfile ((List.getElem?_inj hlt placed.files).1 heq).symm
      refine h.of_other (gapStart_closeGap_of_ne hne _) ?_
      rw [endsIn_singleton, hfile', if_neg]
      rintro ⟨heq, _⟩
      exact hfile (Option.some.inj heq)
  · rename_i hnone
    refine h.of_other rfl ?_
    rw [endsIn_singleton, if_neg]
    rintro ⟨heq, _⟩
    exact hnone file name heq (by simp [ParsedUnit.fileName?, heq, hname])

/-- **A gap starts at the furthest end of what is listed before.** -/
theorem startsAt_foldl (placed : Placed unit) (hname : unit.files[file]? = some name)
    (l : List Nat) (hl : ∀ position ∈ l, position ∈ unit.top)
    (h : StartsAt unit ends file name seen) :
    StartsAt unit (l.foldl (endsAfter unit) ends) file name (seen ++ l) := by
  induction l generalizing ends seen with
  | nil => rw [List.append_nil]; exact h
  | cons position l ih =>
    have hstep := h.step placed hname (hl position List.mem_cons_self)
    have hrest := ih (fun p hp => hl p (List.mem_cons_of_mem _ hp)) hstep
    rw [List.append_assoc] at hrest
    exact hrest

theorem startsAt_listed (placed : Placed unit) (hname : unit.files[file]? = some name)
    {l : List Nat} (hl : ∀ position ∈ l, position ∈ unit.top) :
    StartsAt unit (l.foldl (endsAfter unit) []) file name l := by
  have h := startsAt_foldl placed hname l hl (startsAt_nil unit file name)
  rwa [List.nil_append] at h

end GapStart

/-- The declarations among a list and those among what follows it. -/
theorem gapsFrom_append (unit : ParsedUnit) (ends : Ends) (l m : List Nat) :
    gapsFrom unit ends (l ++ m) =
      gapsFrom unit ends l ++ gapsFrom unit (l.foldl (endsAfter unit) ends) m := by
  induction l generalizing ends with
  | nil => rfl
  | cons position l ih =>
    simp only [List.cons_append, List.foldl_cons, gapsFrom, endsAfter]
    cases (unit.cursor position).location.file with
    | none => exact ih ends
    | some file =>
      cases unit.fileName? (unit.cursor position).location with
      | none => exact ih ends
      | some name => exact congrArg (_ :: ·) (ih _)

/-! ## The comment of a declaration -/

/-- The lines of a comment token that may be missing. -/
def linesOf (token : Option Token) : List String :=
  match token with
  | some token => Comment.lines token.spelling
  | none => []

/-- The lines tell whether there is a comment. -/
theorem linesOf_filter_eq_iff {token : Option Token} {p q : Token → Bool} :
    linesOf (token.filter p) = linesOf (token.filter q) ↔
      ∀ t, token = some t → (p t = true ↔ q t = true) := by
  cases token with
  | none => simp
  | some t =>
    have hlines : Comment.lines t.spelling ≠ [] := by
      simp [Comment.lines, List.splitOn_ne_nil]
    by_cases hp : p t = true <;> by_cases hq : q t = true <;>
      simp [Option.filter, linesOf, hp, hq, hlines, hlines.symm]

/-- What a declaration is handed is the last comment behind those listed before it. -/
theorem comment_eq_linesOf {unit : ParsedUnit} (placed : Placed unit) {position file : Nat}
    {name : String} (hposition : position ∈ unit.top)
    (located : (unit.cursor position).location.file = some file)
    (named : unit.files[file]? = some name) {ends : Ends} {seen : List Nat}
    (h : StartsAt unit ends file name seen) :
    Declaration.comment unit ⟨position, name, gapStart ends file name⟩ =
      linesOf (lastComment (tokensIn unit file) (endsIn unit file seen)
        (unit.cursor position).start.offset) := by
  obtain ⟨tokens, htokens, first, hfirst, hkind, hstart⟩ :=
    placed.first position hposition file located
  have htokens : unit.tokens[file]? = some tokens := htokens
  have horder := placed.inOrder file
  have hin : tokensIn unit file = tokens := by simp [tokensIn, htokens]
  rw [hin] at horder ⊢
  unfold Declaration.comment Comment.linesBefore
  rw [Comment.nearest_eq_lastComment named htokens horder h.inFile
    (placed.start position hposition file located) hfirst hkind hstart h.offset]
  cases lastComment tokens (endsIn unit file seen) (unit.cursor position).start.offset <;> rfl

/-- **The comment that a declaration is handed** is the last one in front of it that stands behind
all declarations of its file which close gaps and are listed before it.  It is the last one behind
all those that end in front of it, wherever they are listed, exactly if the last comment of all in
front of it stands behind the ones just if it stands behind the others. -/
theorem comment_of_listed {unit : ParsedUnit} (placed : Placed unit) {earlier later : List Nat}
    {position file : Nat} {name : String} (listed : unit.top = earlier ++ position :: later)
    (located : (unit.cursor position).location.file = some file)
    (named : unit.files[file]? = some name) :
    ∃ gap after, gaps unit = gapsFrom unit [] earlier ++ ⟨position, name, gap⟩ :: after ∧
      let start := (unit.cursor position).start.offset
      let before := endsIn unit file earlier
      let inFront := (endsIn unit file unit.top).filter (· ≤ start)
      let comment := Declaration.comment unit ⟨position, name, gap⟩
      comment = linesOf (lastComment (tokensIn unit file) before start) ∧
      (comment = linesOf (lastComment (tokensIn unit file) inFront start) ↔
        ∀ t, lastComment (tokensIn unit file) [] start = some t →
          ((∀ e ∈ before, e ≤ t.start) ↔ ∀ e ∈ inFront, e ≤ t.start)) := by
  have hposition : position ∈ unit.top := by simp [listed]
  have hgap := startsAt_listed placed named (l := earlier) fun p hp => by simp [listed, hp]
  have hcomment := comment_eq_linesOf placed hposition located named hgap
  have hname : unit.fileName? (unit.cursor position).location = some name := by
    simp [ParsedUnit.fileName?, located, named]
  refine ⟨gapStart (earlier.foldl (endsAfter unit) []) file name,
    gapsFrom unit (endsAfter unit (earlier.foldl (endsAfter unit) []) position) later, ?_,
    hcomment, ?_⟩
  · unfold gaps
    rw [listed, gapsFrom_append]
    simp only [gapsFrom, endsAfter, located, hname]
  · rw [hcomment, Comment.lastComment_eq_filter (placed.inOrder file) (endsIn unit file earlier),
      Comment.lastComment_eq_filter (placed.inOrder file) ((endsIn unit file unit.top).filter _),
      linesOf_filter_eq_iff]
    simp only [decide_eq_true_eq]

/-- A function with a comment and, behind it, a macro, which front-ends list before it:
`/** doc */ int f(void);` and `#define X 1` on the next line. -/
def macroBehind : ParsedUnit where
  files := #["test.h"]
  tokens := #[[⟨.comment, "/** doc */", 0, 10, 1⟩, ⟨.keyword, "int", 11, 14, 1⟩,
    ⟨.identifier, "f", 15, 16, 1⟩, ⟨.punctuation, "(", 16, 17, 1⟩, ⟨.keyword, "void", 17, 21, 1⟩,
    ⟨.punctuation, ")", 21, 22, 1⟩, ⟨.punctuation, ";", 22, 23, 1⟩, ⟨.punctuation, "#", 24, 25, 2⟩,
    ⟨.identifier, "define", 25, 31, 2⟩, ⟨.identifier, "X", 32, 33, 2⟩, ⟨.literal, "1", 34, 35, 2⟩]]
  cursors := #[
    { Cursor.missing with
      kind := .macroDefinition, spelling := "X", location := ⟨some 0, 32, 2⟩
      start := ⟨some 0, 32, 2⟩, stop := ⟨some 0, 35, 2⟩ },
    { Cursor.missing with
      kind := .functionDecl, spelling := "f", location := ⟨some 0, 15, 1⟩
      start := ⟨some 0, 11, 1⟩, stop := ⟨some 0, 22, 1⟩, result := some 0 }]
  types := #[{ SourceType.missing with kind := .int, spelling := "int" }]
  top := [0, 1]
  includes := []
  diagnostics := []

theorem placed_macroBehind : Placed macroBehind where
  files := by decide
  tokens := by
    intro tokens htokens
    obtain rfl := List.mem_singleton.1 htokens
    exact ⟨by decide, by decide⟩
  start := by decide
  stop := by decide
  first := by decide

theorem comment_of_listed_macroBehind :
    ∃ gap after, gaps macroBehind = gapsFrom macroBehind [] [0] ++ ⟨1, "test.h", gap⟩ :: after ∧
      let before := endsIn macroBehind 0 [0]
      let inFront := (endsIn macroBehind 0 macroBehind.top).filter (· ≤ 11)
      let comment := Declaration.comment macroBehind ⟨1, "test.h", gap⟩
      comment = linesOf (lastComment (tokensIn macroBehind 0) before 11) ∧
      (comment = linesOf (lastComment (tokensIn macroBehind 0) inFront 11) ↔
        ∀ t, lastComment (tokensIn macroBehind 0) [] 11 = some t →
          ((∀ e ∈ before, e ≤ t.start) ↔ ∀ e ∈ inFront, e ≤ t.start)) :=
  comment_of_listed placed_macroBehind (show macroBehind.top = [0] ++ 1 :: [] from rfl)
    (show (macroBehind.cursor 1).location.file = some 0 from rfl)
    (show macroBehind.files[0]? = some "test.h" from rfl)

/-- The comment goes to the macro, which has no use for it, and the function is handed none, though
nothing stands between the comment and the function. -/
theorem comment_lost_to_macro_behind :
    (gaps macroBehind).map (·.comment macroBehind) = [["doc"], []] ∧
      linesOf (lastComment (tokensIn macroBehind 0)
        ((endsIn macroBehind 0 macroBehind.top).filter (· ≤ 11)) 11) = ["doc"] := by
  decide +kernel

end HeaderIndex.Reader
