import HeaderIndex.Proofs.Number.Quoted
import HeaderIndex.Proofs.Reader.Step

/-!
# Quoted literals in constants

A literal that is no number keeps the tokens around it from having a value.

* `exists_error_of_literal` — tokens with such a literal among them are not evaluated.
* `readMacro_of_literal`, `add_of_literal` — a macro with such a literal is not recorded, and neither
  is a constant of an enumeration; both are told about.
* `quoted_unsupported` — which quoted literals are such literals.
-/

namespace HeaderIndex.Reader

/-- The tokens of a cursor as they are evaluated. -/
def spelledTokens (tokens : List Token) : List (TokenKind × String) :=
  tokens.map fun token => (token.kind, token.spelling)

theorem exists_error_of_literal {tokens : List (TokenKind × String)} {spelling : String}
    (hmem : (.literal, spelling) ∈ tokens) (hvalue : Literal.value? spelling = none) :
    ∃ error, evaluateTokens tokens = .error error := by
  have hparts : ∃ error,
      (tokens.mapM fun token => expressionPart? token.1 token.2) = Except.error error := by
    induction tokens with
    | nil => cases hmem
    | cons token tokens ih =>
      rw [List.mapM_cons]
      cases hpart : expressionPart? token.1 token.2 with
      | error error => exact ⟨error, rfl⟩
      | ok part =>
        -- the literal itself is no part, so it stands behind this token
        have hne : (TokenKind.literal, spelling) ≠ token := by
          rintro rfl
          simp [expressionPart?, hvalue] at hpart
        obtain ⟨error, herror⟩ := ih ((List.mem_cons.1 hmem).resolve_left hne)
        exact ⟨error, by rw [herror]; rfl⟩
  obtain ⟨error, herror⟩ := hparts
  exact ⟨error, by unfold evaluateTokens; simp [herror, bind, Except.bind]⟩

/-- A macro with a literal that is no number leaves the index as it is, and is told about unless it
has parameters or its spelling is taken.  A literal of too many digits in front of that one breaks the
reading off. -/
theorem readMacro_of_literal (r : Resolver) (cursor : Cursor) (s : State) {spelling : String}
    (hmem : (.literal, spelling) ∈ spelledTokens (r.unit.tokensOf cursor).tail)
    (hvalue : Literal.value? spelling = none) :
    ∃ error, readMacro r cursor s = (.ok (),
      if isFunctionLike (r.unit.tokensOf cursor) ∨ s.index.contains (.ofMacro cursor.spelling) then s
      else (s.breakOff (overlongReason (spelledTokens (r.unit.tokensOf cursor).tail))).warn
        [.ofMacro cursor.spelling error]) := by
  obtain ⟨error, herror⟩ := exists_error_of_literal hmem hvalue
  have hlength : ¬ (r.unit.tokensOf cursor).length ≤ 1 := by
    intro hle
    have htail : (r.unit.tokensOf cursor).tail = [] :=
      List.eq_nil_of_length_eq_zero (by rw [List.length_tail]; omega)
    rw [htail] at hmem
    cases hmem
  refine ⟨error, ?_⟩
  unfold spelledTokens at herror
  simp only [readMacro, hlength, false_or]
  by_cases hlike : isFunctionLike (r.unit.tokensOf cursor) = true
  · rw [if_pos hlike, if_pos (.inl hlike)]
    rfl
  · rw [if_neg hlike, herror]
    show (if s.index.contains (.ofMacro cursor.spelling) = true then Action.pure ()
      else Action.bind (Action.breakOff (overlongReason (spelledTokens (r.unit.tokensOf cursor).tail)))
        fun _ => Action.warn [.ofMacro cursor.spelling error]) s = _
    by_cases htaken : s.index.contains (.ofMacro cursor.spelling) = true
    · rw [if_pos htaken, if_pos (.inr htaken)]
      rfl
    · rw [if_neg htaken, if_neg (not_or.2 ⟨hlike, htaken⟩)]
      rfl

/-- A constant whose initializer has a literal that is no number is left out and told about. -/
theorem add_of_literal (unit : ParsedUnit) (prefixes : List String) (texts : Comment.Texts)
    (read : Enumerators) (cursor : Cursor) {initializer : Nat} {rest : List Nat} {spelling : String}
    (hchildren : cursor.children = initializer :: rest)
    (hmem : (.literal, spelling) ∈ spelledTokens (unit.tokensOf (unit.cursor initializer)))
    (hvalue : Literal.value? spelling = none) :
    ∃ error, read.add unit prefixes texts cursor =
      { read with
        previous := cursor.location
        warnings := read.warnings ++ [.enumerator cursor.spelling error] } := by
  obtain ⟨error, herror⟩ := exists_error_of_literal hmem hvalue
  unfold spelledTokens at herror
  refine ⟨error, ?_⟩
  have hnone : enumeratorValue unit cursor read.next = .error error := by
    simp [enumeratorValue, hchildren, herror, bind, Except.bind]
  simp only [Enumerators.add, hnone]

/-- **Quoted literals are not supported, with one exception.**  A character constant without an
encoding is the number that its contents are; every other quoted literal is no number.  A macro with
one that is no number is not recorded, but told about if it is evaluated at all, and neither is a
constant of an enumeration.  Whether the reading is broken off there depends on the literals in front
of that one. -/
theorem quoted_unsupported (q : Quoted) :
    (Literal.value? q.spelling =
      if q.sort = .character ∧ q.encoding = .plain then Literal.value? (String.ofList q.contents)
      else none) ∧
    (Literal.value? q.spelling = none →
      (∀ (r : Resolver) (cursor : Cursor) (s : State),
        (.literal, q.spelling) ∈ spelledTokens (r.unit.tokensOf cursor).tail →
        ∃ error, readMacro r cursor s = (.ok (),
          if isFunctionLike (r.unit.tokensOf cursor) ∨ s.index.contains (.ofMacro cursor.spelling)
          then s
          else (s.breakOff (overlongReason (spelledTokens (r.unit.tokensOf cursor).tail))).warn
            [.ofMacro cursor.spelling error])) ∧
      ∀ (unit : ParsedUnit) (prefixes : List String) (texts : Comment.Texts) (read : Enumerators)
        (cursor : Cursor) (initializer : Nat) (rest : List Nat),
        cursor.children = initializer :: rest →
        (.literal, q.spelling) ∈ spelledTokens (unit.tokensOf (unit.cursor initializer)) →
        ∃ error, read.add unit prefixes texts cursor =
          { read with
            previous := cursor.location
            warnings := read.warnings ++ [.enumerator cursor.spelling error] }) := by
  refine ⟨Literal.value?_spelling q, fun hvalue => ⟨?_, ?_⟩⟩
  · intro r cursor s hmem
    exact readMacro_of_literal r cursor s hmem hvalue
  · intro unit prefixes texts read cursor initializer rest hchildren hmem
    exact add_of_literal unit prefixes texts read cursor hchildren hmem hvalue

/-- `#define X` with one literal behind it. -/
def literalMacro (literal : String) : ParsedUnit where
  files := #["test.h"]
  tokens := #[[⟨.identifier, "X", 8, 9, 1⟩, ⟨.literal, literal, 10, 13, 1⟩]]
  cursors := #[
    { Cursor.missing with
      kind := .macroDefinition, spelling := "X", location := ⟨some 0, 8, 1⟩
      start := ⟨some 0, 8, 1⟩, stop := ⟨some 0, 13, 1⟩ }]
  types := #[]
  top := [0]
  includes := []
  diagnostics := []

/-- A letter is no number, so `#define X 'a'` is only told about. -/
theorem quoted_unsupported_letter :
    Literal.value? "'a'" = none ∧ ∃ error,
      readMacro ⟨literalMacro "'a'", [], ["test.h"]⟩ ((literalMacro "'a'").cursor 0) .initial =
        (.ok (), State.initial.warn [.ofMacro "X" error]) :=
  ⟨by decide, ((quoted_unsupported ⟨.plain, .character, ['a']⟩).2 (by decide)).1
    ⟨literalMacro "'a'", [], ["test.h"]⟩ ((literalMacro "'a'").cursor 0) .initial (by decide)⟩

/-- A digit is one: `#define X '1'` is recorded as the number 1, without a word, though the value of
the constant is that of the character. -/
theorem quoted_digit_recorded :
    let config : Config :=
      ⟨Settings.minimal "test" [.path "test.h"], by decide, by simp [Settings.minimal]⟩
    let state := (readUnit config (literalMacro (Quoted.spelling ⟨.plain, .character, ['1']⟩))
      ["test.h"] .initial).2
    Literal.value? (Quoted.spelling ⟨.plain, .character, ['1']⟩) = some (.int 1) ∧
      state.index.constants.map (·.value) = [.int 1] ∧ state.warnings = [] := by
  decide +kernel

end HeaderIndex.Reader
