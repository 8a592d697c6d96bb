import HeaderIndex.Expression.Evaluation
import HeaderIndex.Proofs.Expression.Written

/-!
# Which token sequences have a value

* `HasValue` — the grammar derives a list of lexemes, and the tree has a value.
* `evaluateTokens_eq_ok_iff` — tokens are evaluated to a number if their lexemes have this value as
  they are written.
* `evaluateTokens_grammar` — where this differs from what the grammar says of the lexemes
  themselves.
-/

namespace HeaderIndex.Expression

/-- Whether a list is derived by the grammar as a tree with a value. -/
def HasValue (l : List Lexeme) (v : Number) : Prop := ∃ e, Derives .shifts l e ∧ e.Denotes v

theorem value_parse?_iff {l : List Lexeme} (hl : ∀ value, .number value ∈ l → value.IsFinite)
    (v : Number) : (∃ e, parse? l = some e ∧ e.value = .ok v) ↔ HasValue l v := by
  constructor
  · rintro ⟨e, hparse, hvalue⟩
    have h := parse?_eq_some_iff.1 ⟨hparse, plain_of_value hvalue⟩
    exact ⟨e, h, (value_eq_ok_iff h hl v).1 hvalue⟩
  · rintro ⟨e, h, hv⟩
    exact ⟨e, (parse?_eq_some_iff.2 h).1, (value_eq_ok_iff h hl v).2 hv⟩

/-! ## Tokens -/

/-- The lexeme that a token stands for in the grammar: its number, whatever sign that has, or its
sign. -/
def symbol? : TokenKind × String → Option Lexeme
  | (.literal, spelling) => (Literal.value? spelling).map .number
  | (.punctuation, spelling) => Lexeme.ofSign? spelling
  | _ => none

/-- The lexemes of tokens, comments apart, if each of them has one. -/
def symbols? (tokens : List (TokenKind × String)) : Option (List Lexeme) :=
  (tokens.filter (·.1 ≠ .comment)).mapM symbol?

theorem rewritten_of_ofSign? {spelling : String} {a : Lexeme}
    (h : Lexeme.ofSign? spelling = some a) : rewritten a = [a] := by
  unfold Lexeme.ofSign? at h
  split at h <;> cases h <;> rfl

/-- A token is a part of an expression as its lexeme is written, or none if it has no lexeme. -/
theorem expressionPart?_eq (kind : TokenKind) (spelling : String) (hk : kind ≠ .comment) :
    (∃ a text, symbol? (kind, spelling) = some a ∧
      expressionPart? kind spelling = .ok (some (rewritten a, text))) ∨
    (∃ error, symbol? (kind, spelling) = none ∧ expressionPart? kind spelling = .error error) := by
  cases kind with
  | comment => exact absurd rfl hk
  | literal =>
    cases hv : Literal.value? spelling with
    | some value => exact .inl ⟨.number value, value.text, by simp [symbol?, hv],
        by simp [expressionPart?, hv, rewritten]⟩
    | none => exact .inr ⟨.literal spelling, by simp [symbol?, hv], by simp [expressionPart?, hv]⟩
  | punctuation =>
    cases hs : Lexeme.ofSign? spelling with
    | some a => exact .inl ⟨a, spelling, hs, by simp [expressionPart?, hs, rewritten_of_ofSign? hs]⟩
    | none => exact .inr ⟨.operator spelling, hs, by simp [expressionPart?, hs]⟩
  | keyword | identifier => exact .inr ⟨_, rfl, rfl⟩

/-- The parts of tokens with lexemes are these as they are written; else there is an error. -/
theorem parts_cases (tokens : List (TokenKind × String)) :
    (∃ parts symbols,
      (tokens.mapM fun token => expressionPart? token.1 token.2) = Except.ok parts ∧
        symbols? tokens = some symbols ∧ (parts.filterMap id).map (·.1) = symbols.map rewritten) ∨
    (∃ error, (tokens.mapM fun token => expressionPart? token.1 token.2) = Except.error error ∧
      symbols? tokens = none) := by
  induction tokens with
  | nil => exact .inl ⟨[], [], rfl, rfl, rfl⟩
  | cons token tokens ih =>
    obtain ⟨kind, spelling⟩ := token
    by_cases hk : kind = .comment
    · -- a comment is no part and has no lexeme
      subst hk
      rcases ih with ⟨parts, symbols, hparts, hsymbols, heq⟩ | ⟨error, herror, hnone⟩
      · refine .inl ⟨none :: parts, symbols, ?_, by simpa [symbols?] using hsymbols, heq⟩
        rw [List.mapM_cons, hparts]
        rfl
      · refine .inr ⟨error, ?_, by simpa [symbols?] using hnone⟩
        rw [List.mapM_cons, herror]
        rfl
    · have hcons : symbols? ((kind, spelling) :: tokens) =
          (symbol? (kind, spelling)).bind fun a =>
            (symbols? tokens).bind fun l => some (a :: l) := by
        unfold symbols?
        rw [List.filter_cons_of_pos (by simpa using hk), List.mapM_cons]
        rfl
      rcases expressionPart?_eq kind spelling hk with ⟨a, text, ha, hpart⟩ | ⟨error, ha, hpart⟩
      · rcases ih with ⟨parts, symbols, hparts, hsymbols, heq⟩ | ⟨error, herror, hnone⟩
        · refine .inl ⟨some (rewritten a, text) :: parts, a :: symbols, ?_, ?_, ?_⟩
          · rw [List.mapM_cons, hpart, hparts]
            rfl
          · rw [hcons, ha, hsymbols]
            rfl
          · simpa using heq
        · refine .inr ⟨error, ?_, ?_⟩
          · rw [List.mapM_cons, hpart, herror]
            rfl
          · rw [hcons, ha, hnone]
            rfl
      · refine .inr ⟨error, ?_, ?_⟩
        · rw [List.mapM_cons, hpart]
          rfl
        · rw [hcons, ha]
          rfl

/-- Evaluation gives a number if it is the value of the lexemes as they are written. -/
theorem evaluateTokens_eq_ok_iff (tokens : List (TokenKind × String)) (v : Number) :
    (∃ text, evaluateTokens tokens = .ok ⟨v, text⟩) ↔
      ∃ symbols, symbols? tokens = some symbols ∧ HasValue (written symbols) v := by
  rcases parts_cases tokens with ⟨parts, symbols, hparts, hsymbols, heq⟩ | ⟨error, herror, hnone⟩
  · have hlexemes : (parts.filterMap id).flatMap (·.1) = written symbols := by
      rw [List.flatMap_def, heq, written, List.flatMap_def]
    rw [hsymbols]
    simp only [Option.some.injEq, exists_eq_left',
      ← value_parse?_iff (fun _ => isFinite_of_mem_written) v]
    unfold evaluateTokens
    simp only [hparts, bind, Except.bind, pure, Except.pure, hlexemes, throw, throwThe,
      MonadExceptOf.throw]
    split
    · -- nothing is written, which is no expression
      rename_i hnil
      have hwritten : written symbols = [] := by rw [← hlexemes, hnil, List.flatMap_nil]
      have hparse : parse? (written symbols) = none := by rw [hwritten]; rfl
      simp [hparse]
    · generalize " ".intercalate _ = text
      cases parse? (written symbols) with
      | none => simp
      | some e =>
        cases hvalue : e.value with
        | ok value => simp [hvalue, eq_comm]
        | error error => simp [hvalue]
  · rw [hnone]
    unfold evaluateTokens
    simp [herror, bind, Except.bind]

/-! ## What the grammar promises and what is evaluated -/

/-- As long as no number with a sign stands directly behind an operand, writing numbers anew does
not change what has a value. -/
theorem hasValue_written_iff {l : List Lexeme} (h : Apart IsNegative l) (v : Number) :
    HasValue (written l) v ↔ HasValue l v := by
  constructor
  · rintro ⟨e', he', hv'⟩
    obtain ⟨e, he, hv⟩ := derives_of_written he' rfl h
    exact ⟨e, he, hv v hv'⟩
  · rintro ⟨e, he, hv⟩
    exact derives_written he hv

/-- A list that has a value has no number with a sign directly behind an operand. -/
theorem HasValue.apart {l : List Lexeme} {v : Number} (h : HasValue l v) : Apart IsNegative l := by
  obtain ⟨e, he, _⟩ := h
  refine he.apart.imp fun a b hab ha hb => hab ha ?_
  cases b with
  | number => trivial
  | _ => cases hb

/-- **Evaluation follows the grammar up to numbers with a sign.**  Tokens have a value if each but
the comments has a lexeme, the lexemes as they are written are derived by the grammar, and the tree
has this value.  This is what the grammar says of the lexemes themselves unless a number with a sign
stands directly behind an operand, where it is read as an operation, and what is written then has a
value. -/
theorem evaluateTokens_grammar (tokens : List (TokenKind × String)) :
    (∀ v, (∃ text, evaluateTokens tokens = .ok ⟨v, text⟩) ↔
      ∃ symbols, symbols? tokens = some symbols ∧ HasValue (written symbols) v) ∧
    ((∀ v, (∃ text, evaluateTokens tokens = .ok ⟨v, text⟩) ↔
      ∃ symbols, symbols? tokens = some symbols ∧ HasValue symbols v) ↔
    ∀ symbols, symbols? tokens = some symbols →
      Apart IsNegative symbols ∨ ∀ v, ¬ HasValue (written symbols) v) := by
  refine ⟨evaluateTokens_eq_ok_iff tokens, ?_⟩
  simp only [evaluateTokens_eq_ok_iff]
  constructor
  · intro h symbols hsymbols
    by_cases hv : ∃ v, HasValue (written symbols) v
    · obtain ⟨v, hv⟩ := hv
      obtain ⟨symbols', hsymbols', hv'⟩ := (h v).1 ⟨symbols, hsymbols, hv⟩
      obtain rfl := Option.some.inj (hsymbols.symm.trans hsymbols')
      exact .inl hv'.apart
    · exact .inr fun v hw => hv ⟨v, hw⟩
  · intro h v
    constructor
    · rintro ⟨symbols, hsymbols, hv⟩
      rcases h symbols hsymbols with hapart | hnone
      · exact ⟨symbols, hsymbols, (hasValue_written_iff hapart v).1 hv⟩
      · exact absurd hv (hnone v)
    · rintro ⟨symbols, hsymbols, hv⟩
      exact ⟨symbols, hsymbols, (hasValue_written_iff hv.apart v).2 hv⟩

/-- Quotes are taken for digit separators, so that `'-1'` is a number with a sign.  Behind another
number it is subtracted, though two numbers in a row are no expression. -/
theorem evaluateTokens_behind_operand :
    evaluateTokens [(.literal, "2"), (.literal, "'-1'")] = .ok ⟨.int 1, "2 -1"⟩ ∧
      ¬ ∃ symbols, symbols? [(.literal, "2"), (.literal, "'-1'")] = some symbols ∧
        HasValue symbols (.int 1) := by
  refine ⟨rfl, ?_⟩
  rintro ⟨symbols, hsymbols, hvalue⟩
  have heq : symbols? [(.literal, "2"), (.literal, "'-1'")] =
      some [.number (.int 2), .number (.int (-1))] := rfl
  obtain rfl := Option.some.inj (heq.symm.trans hsymbols)
  have hbehind := List.isChain_cons_cons.1 hvalue.apart
  exact hbehind.1 trivial (show (-1 : Int) < 0 by decide)

end HeaderIndex.Expression
