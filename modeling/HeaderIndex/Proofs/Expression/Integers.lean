import HeaderIndex.Proofs.Expression.Evaluation
import HeaderIndex.Proofs.Fallible

/-!
# Integers among values

A sum with a float is a float, and a shift has no floats.  So the value of tokens is an integer
exactly if all numbers that it is made of are, which can be told from the spelling of the literals.

* `Derives.isInt_iff` — the value of a tree is an integer exactly if all of its numbers are.
* `allInts_written` — numbers stay integers or floats when they are written anew.
* `evaluateTokens_isInt_iff` — the value of tokens is an integer exactly if no literal among them
  has a point or an exponent.
-/

namespace HeaderIndex

/-- A number that is no float. -/
def Number.IsInt : Number → Prop
  | .int _ => True
  | .float _ => False

theorem Number.isInt_neg (value : Number) : value.neg.IsInt ↔ value.IsInt := by
  cases value <;> rfl

theorem Number.isInt_succ (value : Number) : value.succ.IsInt ↔ value.IsInt := by
  cases value <;> rfl

/-- Whether a token is a literal with a point or an exponent, quotes aside. -/
def isFloatLiteral (token : TokenKind × String) : Bool :=
  token.1 = .literal && Literal.isFloating (token.2.toList.filter (· ≠ '\''))

namespace Expression

/-! ## Values of trees -/

theorem Combines.isInt_iff {onInts : Int → Int → Int} {onFloats : Float → Float → Float}
    {x y result : Number} (h : Combines onInts onFloats x y result) :
    result.IsInt ↔ x.IsInt ∧ y.IsInt := by
  cases x with
  | int a =>
    cases y with
    | int b =>
      obtain rfl : result = .int (onInts a b) := h
      exact ⟨fun _ => ⟨trivial, trivial⟩, fun _ => trivial⟩
    | float b =>
      obtain ⟨_, _, _, _, rfl⟩ := h
      exact ⟨False.elim, And.right⟩
  | float a =>
    obtain ⟨_, _, _, _, rfl⟩ := h
    exact ⟨False.elim, And.left⟩

/-- What an operation yields is an integer exactly if it is an operation on integers. -/
theorem Yields.isInt_iff {operation : BinaryOperation} {x y result : Number}
    (h : Yields operation x y result) : result.IsInt ↔ x.IsInt ∧ y.IsInt := by
  cases operation with
  | add | sub => exact Combines.isInt_iff h
  | shift direction =>
    -- there are only shifts of integers by integers
    cases x with
    | float => cases direction <;> exact h.elim
    | int a =>
      cases y with
      | float => cases direction <;> exact h.elim
      | int n =>
        cases direction
        all_goals
          obtain ⟨_, _, rfl⟩ := h
          exact ⟨fun _ => ⟨trivial, trivial⟩, fun _ => trivial⟩

/-- Whether all numbers of a list are integers. -/
def AllInts (l : List Lexeme) : Prop := ∀ value, .number value ∈ l → value.IsInt

theorem allInts_append (l m : List Lexeme) : AllInts (l ++ m) ↔ AllInts l ∧ AllInts m := by
  simp only [AllInts, List.mem_append, or_imp, forall_and]

theorem allInts_cons (a : Lexeme) (l : List Lexeme) :
    AllInts (a :: l) ↔ AllInts [a] ∧ AllInts l :=
  allInts_append [a] l

theorem allInts_number (value : Number) : AllInts [.number value] ↔ value.IsInt := by
  simp [AllInts]

theorem allInts_of_not_number {a : Lexeme} (h : ¬ IsNumber a) : AllInts [a] := by
  rintro value hvalue
  obtain rfl := List.mem_singleton.1 hvalue
  exact absurd trivial h

/-- A sign between two operands. -/
theorem allInts_between {sign : Lexeme} (hsign : ¬ IsNumber sign) (l m : List Lexeme) :
    AllInts (l ++ sign :: m) ↔ AllInts l ∧ AllInts m := by
  rw [allInts_append, allInts_cons, and_iff_right (allInts_of_not_number hsign)]

variable {rank : Rank} {l : List Lexeme} {e : Expression}

/-- **The value of a tree** is an integer exactly if all of its numbers are. -/
theorem Derives.isInt_iff (h : Derives rank l e) {v : Number} (hv : e.Denotes v) :
    v.IsInt ↔ AllInts l := by
  induction h generalizing v with
  | sums h ih | signs h ih => exact ih hv
  | shift direction h h' ih ih' | add h h' ih ih' | sub h h' ih ih' =>
    obtain ⟨x, y, hx, hy, hyields⟩ := (denotes_binary ..).1 hv
    rw [hyields.isInt_iff, allInts_between (by simp [IsNumber]), ih hx, ih' hy]
  | plus h ih =>
    rw [allInts_cons, and_iff_right (allInts_of_not_number (by simp [IsNumber])),
      ih ((denotes_plus ..).1 hv)]
  | minus h ih =>
    obtain ⟨w, hw, rfl⟩ := (denotes_minus ..).1 hv
    rw [allInts_cons, and_iff_right (allInts_of_not_number (by simp [IsNumber])), Number.isInt_neg,
      ih hw]
  | number value =>
    cases hv
    exact (allInts_number value).symm
  | parentheses h ih =>
    have hopen : AllInts [.openParenthesis] := allInts_of_not_number (by simp [IsNumber])
    have hclose : AllInts [.closeParenthesis] := allInts_of_not_number (by simp [IsNumber])
    rw [allInts_cons, and_iff_right hopen, allInts_append, and_iff_left hclose, ih hv]

/-! ## Numbers as they are written -/

/-- What is derived has no number that is not finite. -/
theorem Derives.name_notMem (h : Derives rank l e) : .name ∉ l := by
  induction h with
  | sums h ih | signs h ih => exact ih
  | shift direction h h' ih ih' | add h h' ih ih' | sub h h' ih ih' => simp [ih, ih']
  | plus h ih | minus h ih => simp [ih]
  | number value => simp
  | parentheses h ih => simp [ih]

theorem Rewrites.allInts_iff {a : Lexeme} {m : List Lexeme} (h : Rewrites a m) (hname : .name ∉ m) :
    AllInts m ↔ AllInts [a] := by
  cases h with
  | same => rfl
  | @negative value size _ _ _ eq =>
    have hminus : AllInts [.minus] := allInts_of_not_number (by simp [IsNumber])
    rw [allInts_cons, and_iff_right hminus, allInts_number, allInts_number, eq, Number.isInt_neg]
  | infinite | negativeInfinite => simp at hname

theorem allInts_written {l : List Lexeme} (hname : .name ∉ written l) :
    AllInts (written l) ↔ AllInts l := by
  induction l with
  | nil => rfl
  | cons a l ih =>
    rw [written_cons, List.mem_append, not_or] at hname
    rw [written_cons, allInts_append, (rewrites a).allInts_iff hname.1, ih hname.2,
      allInts_cons a l]

/-! ## Tokens -/

theorem isInt_value?_iff {spelling : String} {value : Number}
    (h : Literal.value? spelling = some value) :
    value.IsInt ↔ Literal.isFloating (spelling.toList.filter (· ≠ '\'')) = false := by
  unfold Literal.value? at h
  dsimp only at h
  split at h
  · rename_i hfloating
    obtain ⟨f, _, rfl⟩ := Option.map_eq_some_iff.1 h
    simpa [Number.IsInt] using hfloating
  · rename_i hfloating
    obtain ⟨n, _, rfl⟩ := Option.map_eq_some_iff.1 h
    simpa [Number.IsInt] using hfloating

theorem not_isNumber_of_ofSign? {spelling : String} {a : Lexeme}
    (h : Lexeme.ofSign? spelling = some a) : ¬ IsNumber a := by
  unfold Lexeme.ofSign? at h
  split at h <;> cases h <;> exact id

/-- The symbol of a token is no float exactly if the token is none. -/
theorem allInts_symbol?_iff {token : TokenKind × String} {a : Lexeme} (h : symbol? token = some a) :
    AllInts [a] ↔ isFloatLiteral token = false := by
  obtain ⟨kind, spelling⟩ := token
  cases kind with
  | literal =>
    obtain ⟨value, hvalue, rfl⟩ := Option.map_eq_some_iff.1 h
    rw [allInts_number, isInt_value?_iff hvalue]
    simp [isFloatLiteral]
  | punctuation =>
    exact ⟨fun _ => rfl, fun _ => allInts_of_not_number (not_isNumber_of_ofSign? h)⟩
  | keyword | identifier | comment => simp [symbol?] at h

theorem allInts_of_forall₂ {operands : List (TokenKind × String)} {symbols : List Lexeme}
    (h : List.Forall₂ (fun token a => symbol? token = some a) operands symbols) :
    AllInts symbols ↔ ∀ token ∈ operands, isFloatLiteral token = false := by
  induction h with
  | nil => simp [AllInts]
  | cons hsymbol _ ih => rw [allInts_cons, allInts_symbol?_iff hsymbol, ih, List.forall_mem_cons]

theorem allInts_symbols?_iff {tokens : List (TokenKind × String)} {symbols : List Lexeme}
    (h : symbols? tokens = some symbols) :
    AllInts symbols ↔ ∀ token ∈ tokens, isFloatLiteral token = false := by
  rw [allInts_of_forall₂ (mapM_eq_some_iff.1 h)]
  refine ⟨fun hall token htoken => ?_, fun hall token htoken =>
    hall token (List.mem_filter.1 htoken).1⟩
  -- comments have no symbol, and they are no floats
  by_cases hkind : token.1 = .comment
  · simp [isFloatLiteral, hkind]
  · exact hall token (List.mem_filter.2 ⟨htoken, by simpa using hkind⟩)

/-- **The value of tokens** is an integer exactly if no literal among them has a point or an
exponent. -/
theorem evaluateTokens_isInt_iff {tokens : List (TokenKind × String)} {result : Evaluation}
    (h : evaluateTokens tokens = .ok result) :
    result.value.IsInt ↔ ∀ token ∈ tokens, isFloatLiteral token = false := by
  obtain ⟨symbols, hsymbols, e, hderives, hdenotes⟩ :=
    (evaluateTokens_eq_ok_iff tokens result.value).1 ⟨result.written, h⟩
  rw [hderives.isInt_iff hdenotes, allInts_written hderives.name_notMem,
    allInts_symbols?_iff hsymbols]

end Expression

end HeaderIndex
