import HeaderIndex.Proofs.Expression.Integers

/-!
# How large values become

A shift is by 64 bits at most, and a sum takes one bit more than its operands.  So a value has at most
64 bits more for every number that it is made of.

* `Number.FitsIn` — an integer has an absolute value below a power of two.
* `Within` — the parts of an expression that are evaluated on the way to its value.
* `Yields.fitsIn` — an operation adds at most 64 bits.
* `value_fitsIn` — so the number of numbers bounds the value of an expression.
* `evaluateTokens_fitsIn` — and the number of tokens bounds all values on the way to that of tokens.
-/

namespace HeaderIndex

/-- Whether a number is an integer with an absolute value below a power of two. -/
def Number.FitsIn (bits : Nat) : Number → Prop
  | .int value => |value| < 2 ^ bits
  | .float _ => False

instance (bits : Nat) : (value : Number) → Decidable (value.FitsIn bits)
  | .int value => inferInstanceAs (Decidable (|value| < 2 ^ bits))
  | .float _ => inferInstanceAs (Decidable False)

theorem Number.FitsIn.mono {bits more : Nat} (hle : bits ≤ more) {value : Number}
    (h : value.FitsIn bits) : value.FitsIn more := by
  cases value with
  | float => exact h
  | int value =>
    calc |value| < 2 ^ bits := h
      _ ≤ 2 ^ more := pow_le_pow_right₀ (by norm_num) hle

theorem Number.FitsIn.neg {bits : Nat} {value : Number} (h : value.FitsIn bits) :
    value.neg.FitsIn bits := by
  cases value with
  | float => exact h
  | int value =>
    show |-value| < 2 ^ bits
    rw [abs_neg]
    exact h

/-- The number that a lexeme is. -/
def Lexeme.number? : Lexeme → Option Number
  | .number value => some value
  | _ => none

namespace Expression

/-! ## Parts and numbers -/

/-- Whether an expression is evaluated on the way to the value of another one. -/
inductive Within (part : Expression) : Expression → Prop
  | self : Within part part
  | plus {operand} (h : Within part operand) : Within part (.plus operand)
  | minus {operand} (h : Within part operand) : Within part (.minus operand)
  | left {operation left right} (h : Within part left) :
    Within part (.binary operation left right)
  | right {operation left right} (h : Within part right) :
    Within part (.binary operation left right)

/-- The numbers that an expression is made of, in order. -/
def numbers : Expression → List Number
  | number value => [value]
  | name | emptyParentheses | call _ => []
  | plus operand | minus operand => operand.numbers
  | binary _ left right => left.numbers ++ right.numbers

theorem Within.numbers_sublist {part e : Expression} (h : part.Within e) :
    part.numbers.Sublist e.numbers := by
  induction h with
  | self => exact List.Sublist.refl _
  | plus h ih | minus h ih => exact ih
  | left h ih => exact ih.trans (List.sublist_append_left _ _)
  | right h ih => exact ih.trans (List.sublist_append_right _ _)

theorem Plain.numbers_ne_nil {e : Expression} (h : e.Plain) : e.numbers ≠ [] := by
  induction e with
  | number => exact List.cons_ne_nil _ _
  | name | emptyParentheses | call => cases h
  | plus operand ih | minus operand ih => exact ih h
  | binary operation left right ihl ihr => exact List.append_ne_nil_of_left_ne_nil (ihl h.1) _

/-- A derivation tree is made of the numbers of the derived list. -/
theorem Derives.numbers_eq {rank : Rank} {l : List Lexeme} {e : Expression} (h : Derives rank l e) :
    e.numbers = l.filterMap Lexeme.number? := by
  induction h with
  | sums h ih | signs h ih => exact ih
  | shift direction h h' ih ih' | add h h' ih ih' | sub h h' ih ih' =>
    rw [numbers, ih, ih', List.filterMap_append, List.filterMap_cons_none rfl]
  | plus h ih | minus h ih => rw [numbers, ih, List.filterMap_cons_none rfl]
  | number value => rfl
  | parentheses h ih =>
    rw [ih, List.filterMap_cons_none rfl, List.filterMap_append, List.filterMap_cons_none rfl,
      List.filterMap_nil, List.append_nil]

/-! ## One operation -/

variable {bits : Nat}

theorem fitsIn_add {a b : Int} (ha : |a| < 2 ^ bits) (hb : |b| < 2 ^ bits) :
    |a + b| < 2 ^ (bits + 64) :=
  calc |a + b| ≤ |a| + |b| := abs_add_le a b
    _ < 2 ^ bits + 2 ^ bits := add_lt_add ha hb
    _ = 2 ^ (bits + 1) := by ring
    _ ≤ 2 ^ (bits + 64) := pow_le_pow_right₀ (by norm_num) (by omega)

theorem fitsIn_shiftLeft {a : Int} {places : Nat} (ha : |a| < 2 ^ bits) (hplaces : places ≤ 64) :
    |a * 2 ^ places| < 2 ^ (bits + 64) :=
  calc |a * 2 ^ places| = |a| * 2 ^ places := by rw [abs_mul, abs_pow, abs_two]
    _ < 2 ^ bits * 2 ^ places := mul_lt_mul_of_pos_right ha (by positivity)
    _ = 2 ^ (bits + places) := (pow_add 2 bits places).symm
    _ ≤ 2 ^ (bits + 64) := pow_le_pow_right₀ (by norm_num) (by omega)

/-- Rounding down does not lead further from zero than the integer was. -/
theorem fitsIn_shiftRight {a : Int} (places : Nat) (ha : |a| < 2 ^ bits) :
    |a.fdiv (2 ^ places)| < 2 ^ bits := by
  rw [Int.fdiv_eq_ediv_of_nonneg _ (by positivity)]
  exact (Int.abs_ediv_le_abs a _).trans_lt ha

/-- **An operation adds at most 64 bits** to integers. -/
theorem Yields.fitsIn {operation : BinaryOperation} {x y result : Number}
    (h : Yields operation x y result) (hx : x.FitsIn bits) (hy : y.FitsIn bits) :
    result.FitsIn (bits + 64) := by
  cases x with
  | float => exact hx.elim
  | int a =>
    cases y with
    | float => exact hy.elim
    | int b =>
      cases operation with
      | add =>
        obtain rfl : result = .int (a + b) := h
        exact fitsIn_add hx hy
      | sub =>
        obtain rfl : result = .int (a - b) := h
        rw [sub_eq_add_neg]
        exact fitsIn_add hx (by rwa [abs_neg])
      | shift direction =>
        cases direction with
        | left =>
          obtain ⟨hnonneg, hmax, rfl⟩ := h
          exact fitsIn_shiftLeft hx (by omega)
        | right =>
          obtain ⟨hnonneg, hmax, rfl⟩ := h
          exact Number.FitsIn.mono (Nat.le_add_right bits 64)
            (show Number.FitsIn bits (.int _) from fitsIn_shiftRight b.toNat hx)

/-! ## Expressions -/

/-- **The number of numbers bounds the value** of an expression of integers.  By induction on the
expression: both operands have a number at least, so that there are 64 bits to spare for the
operation between them. -/
theorem value_fitsIn {e : Expression} {v : Number} (hvalue : e.value = .ok v)
    (hnumbers : ∀ x ∈ e.numbers, x.FitsIn bits) : v.FitsIn (bits + 64 * e.numbers.length) := by
  induction e generalizing v with
  | number value =>
    cases hvalue
    exact (hnumbers _ (List.mem_singleton_self _)).mono (Nat.le_add_right _ _)
  | name | emptyParentheses | call => cases hvalue
  | plus operand ih => exact ih hvalue hnumbers
  | minus operand ih =>
    obtain ⟨w, hw, rfl⟩ := (value_minus ..).1 hvalue
    exact (ih hw hnumbers).neg
  | binary operation left right ihl ihr =>
    obtain ⟨x, y, hx, hy, hyields⟩ := (value_binary ..).1 hvalue
    have hleft := List.length_pos_iff.2 (plain_of_value hx).numbers_ne_nil
    have hright := List.length_pos_iff.2 (plain_of_value hy).numbers_ne_nil
    have hlength : (binary operation left right).numbers.length =
        left.numbers.length + right.numbers.length := List.length_append
    have hx' : x.FitsIn (bits + 64 * (left.numbers.length + right.numbers.length - 1)) :=
      (ihl hx fun n hn => hnumbers n (List.mem_append_left _ hn)).mono (by omega)
    have hy' : y.FitsIn (bits + 64 * (left.numbers.length + right.numbers.length - 1)) :=
      (ihr hy fun n hn => hnumbers n (List.mem_append_right _ hn)).mono (by omega)
    have hboth := hyields.fitsIn hx' hy'
    exact hboth.mono (by omega)

/-- What is evaluated on the way to a value has a value. -/
theorem Within.exists_value {part e : Expression} (h : part.Within e) {v : Number}
    (hvalue : e.value = .ok v) : ∃ w, part.value = .ok w := by
  induction h generalizing v with
  | self => exact ⟨v, hvalue⟩
  | plus h ih => exact ih hvalue
  | minus h ih =>
    obtain ⟨w, hw, _⟩ := (value_minus ..).1 hvalue
    exact ih hw
  | left h ih =>
    obtain ⟨x, _, hx, _, _⟩ := (value_binary ..).1 hvalue
    exact ih hx
  | right h ih =>
    obtain ⟨_, y, _, hy, _⟩ := (value_binary ..).1 hvalue
    exact ih hy

/-! ## Tokens -/

/-- The expression that tokens are read as, if there is one. -/
def ofTokens? (tokens : List (TokenKind × String)) : Option Expression :=
  match tokens.mapM fun token => expressionPart? token.1 token.2 with
  | .ok parts => parse? ((parts.filterMap id).flatMap (·.1))
  | .error _ => none

theorem ofTokens?_eq (tokens : List (TokenKind × String)) :
    ofTokens? tokens = (symbols? tokens).bind fun symbols => parse? (written symbols) := by
  unfold ofTokens?
  rcases parts_cases tokens with ⟨parts, symbols, hparts, hsymbols, heq⟩ | ⟨error, herror, hnone⟩
  · have hlexemes : (parts.filterMap id).flatMap (·.1) = written symbols := by
      rw [List.flatMap_def, heq, written, List.flatMap_def]
    rw [hparts, hsymbols]
    exact congrArg parse? hlexemes
  · rw [herror, hnone]
    rfl

/-- The value of tokens is that of the expression that they are read as. -/
theorem exists_ofTokens? {tokens : List (TokenKind × String)} {result : Evaluation}
    (h : evaluateTokens tokens = .ok result) : ∃ symbols e, symbols? tokens = some symbols ∧
      ofTokens? tokens = some e ∧ Derives .shifts (written symbols) e ∧
      e.value = .ok result.value := by
  obtain ⟨symbols, hsymbols, hhas⟩ :=
    (evaluateTokens_eq_ok_iff tokens result.value).1 ⟨result.written, h⟩
  obtain ⟨e, hparse, hvalue⟩ :=
    (value_parse?_iff (fun _ => isFinite_of_mem_written) result.value).2 hhas
  refine ⟨symbols, e, hsymbols, ?_, parse?_eq_some_iff.1 ⟨hparse, plain_of_value hvalue⟩, hvalue⟩
  rw [ofTokens?_eq, hsymbols]
  exact hparse

/-- An integer is written as one number, which is no larger. -/
theorem numbers_rewritten {value : Number} (h : value.FitsIn bits) :
    ∃ size, (rewritten (.number value)).filterMap Lexeme.number? = [size] ∧ size.FitsIn bits := by
  cases value with
  | float => exact h.elim
  | int n =>
    by_cases hneg : n < 0
    · exact ⟨.int (-n), by rw [rewritten, Lexeme.ofNumber, if_pos hneg]; rfl, h.neg⟩
    · exact ⟨.int n, by rw [rewritten, Lexeme.ofNumber, if_neg hneg]; rfl, h⟩

/-- Lexemes are written with no more numbers than there are lexemes, and with no larger ones. -/
theorem numbers_written {l : List Lexeme} (h : ∀ value, .number value ∈ l → value.FitsIn bits) :
    ((written l).filterMap Lexeme.number?).length ≤ l.length ∧
      ∀ x ∈ (written l).filterMap Lexeme.number?, x.FitsIn bits := by
  induction l with
  | nil => simp [written]
  | cons a l ih =>
    obtain ⟨hlength, hfits⟩ := ih fun value hvalue => h value (List.mem_cons_of_mem _ hvalue)
    rw [written_cons, List.filterMap_append]
    cases a with
    | number value =>
      obtain ⟨size, heq, hsize⟩ := numbers_rewritten (h value List.mem_cons_self)
      rw [heq, List.singleton_append, List.length_cons, List.length_cons]
      exact ⟨by omega, List.forall_mem_cons.2 ⟨hsize, hfits⟩⟩
    | name | plus | minus | shift | openParenthesis | closeParenthesis =>
      exact ⟨hlength.trans (Nat.le_succ _), hfits⟩

/-- The numbers among the lexemes of tokens are those of literals. -/
theorem exists_literal {operands : List (TokenKind × String)} {symbols : List Lexeme}
    (h : List.Forall₂ (fun token a => symbol? token = some a) operands symbols) {value : Number}
    (hvalue : .number value ∈ symbols) :
    ∃ spelling, (.literal, spelling) ∈ operands ∧ Literal.value? spelling = some value := by
  induction h with
  | nil => cases hvalue
  | @cons token a operands symbols hsymbol _ ih =>
    rcases List.mem_cons.1 hvalue with rfl | hvalue
    · obtain ⟨kind, spelling⟩ := token
      cases kind with
      | literal =>
        obtain ⟨v, hv, heq⟩ := Option.map_eq_some_iff.1 hsymbol
        cases heq
        exact ⟨spelling, List.mem_cons_self, hv⟩
      | punctuation => exact absurd trivial (not_isNumber_of_ofSign? hsymbol)
      | keyword | identifier | comment => cases hsymbol
    · obtain ⟨spelling, hspelling, hv⟩ := ih hvalue
      exact ⟨spelling, List.mem_cons_of_mem _ hspelling, hv⟩

theorem numbers_symbols? {tokens : List (TokenKind × String)} {symbols : List Lexeme}
    (h : symbols? tokens = some symbols)
    (hliterals : ∀ spelling, (.literal, spelling) ∈ tokens →
      ∃ value, Literal.value? spelling = some value ∧ value.FitsIn bits) :
    symbols.length ≤ tokens.length ∧ ∀ value, .number value ∈ symbols → value.FitsIn bits := by
  have hsymbols := mapM_eq_some_iff.1 h
  refine ⟨hsymbols.length_eq ▸ List.length_filter_le _ _, fun value hvalue => ?_⟩
  obtain ⟨spelling, hspelling, hv⟩ := exists_literal hsymbols hvalue
  obtain ⟨w, hw, hfits⟩ := hliterals spelling (List.mem_filter.1 hspelling).1
  obtain rfl := Option.some.inj (hw.symm.trans hv)
  exact hfits

/-- **Values do not blow up.**  If tokens have a value, and each literal among them is an integer with
an absolute value below `2 ^ bits`, then this value and all that are found on the way to it are
integers with absolute values below `2 ^ (bits + 65 * n)`, where `n` is the number of tokens.  (A
literal of C has no sign of its own, but one in quotes is read with the sign that it has there.) -/
theorem evaluateTokens_fitsIn {tokens : List (TokenKind × String)} {result : Evaluation}
    (hliterals : ∀ spelling, (.literal, spelling) ∈ tokens →
      ∃ value, Literal.value? spelling = some value ∧ value.FitsIn bits)
    (h : evaluateTokens tokens = .ok result) :
    result.value.FitsIn (bits + 65 * tokens.length) ∧
      ∃ e, ofTokens? tokens = some e ∧ e.value = .ok result.value ∧
        ∀ part : Expression, part.Within e → ∃ value, part.value = .ok value ∧
          value.FitsIn (bits + 65 * tokens.length) := by
  obtain ⟨symbols, e, hsymbols, hread, hderives, hvalue⟩ := exists_ofTokens? h
  obtain ⟨hcount, hfits⟩ := numbers_symbols? hsymbols hliterals
  obtain ⟨hlength, hnumbers⟩ := numbers_written hfits
  rw [← hderives.numbers_eq] at hlength hnumbers
  have hparts : ∀ part : Expression, part.Within e → ∃ value, part.value = .ok value ∧
      value.FitsIn (bits + 65 * tokens.length) := by
    intro part hpart
    obtain ⟨value, hv⟩ := hpart.exists_value hvalue
    have hfewer := hpart.numbers_sublist
    have hlargest := value_fitsIn hv fun x hx => hnumbers x (hfewer.subset hx)
    have hlength' := hfewer.length_le
    exact ⟨value, hv, hlargest.mono (by omega)⟩
  obtain ⟨value, hv, hresult⟩ := hparts e .self
  cases hvalue.symm.trans hv
  exact ⟨hresult, e, hread, hvalue, hparts⟩

/-- The sum is evaluated on the way, and the shift by its value is the widest one. -/
theorem evaluateTokens_fitsIn_widest :
    let tokens : List (TokenKind × String) := [(.literal, "'-3'"), (.punctuation, "<<"),
      (.punctuation, "("), (.literal, "60"), (.punctuation, "+"), (.literal, "4u"),
      (.comment, "/* 64 */"), (.punctuation, ")")]
    (∀ spelling, (TokenKind.literal, spelling) ∈ tokens →
      ∃ value, Literal.value? spelling = some value ∧ value.FitsIn 6) ∧
    evaluateTokens tokens = .ok ⟨.int (-55340232221128654848), "-3 << ( 60 + 4 )"⟩ ∧
    Number.FitsIn (6 + 65 * 8) (.int (-55340232221128654848)) ∧
    ∃ e, ofTokens? tokens = some e ∧ ∀ part : Expression, part.Within e →
      ∃ value, part.value = .ok value ∧ value.FitsIn (6 + 65 * 8) := by
  intro tokens
  have hliterals : ∀ spelling, (TokenKind.literal, spelling) ∈ tokens →
      ∃ value, Literal.value? spelling = some value ∧ value.FitsIn 6 := by
    intro spelling hspelling
    simp only [tokens, List.mem_cons, Prod.mk.injEq, List.not_mem_nil, or_false, reduceCtorEq,
      false_and, false_or, true_and] at hspelling
    rcases hspelling with rfl | rfl | rfl
    · exact ⟨.int (-3), rfl, by decide⟩
    · exact ⟨.int 60, rfl, by decide⟩
    · exact ⟨.int 4, rfl, by decide⟩
  have hvalue : evaluateTokens tokens =
      .ok ⟨.int (-55340232221128654848), "-3 << ( 60 + 4 )"⟩ := rfl
  obtain ⟨hresult, e, hread, -, hparts⟩ := evaluateTokens_fitsIn hliterals hvalue
  exact ⟨hliterals, hvalue, hresult, e, hread, hparts⟩

end Expression

end HeaderIndex
