import HeaderIndex.Proofs.Name.RoundTrip
import HeaderIndex.Proofs.Number.Quoted
import Mathlib.Data.Nat.Digits.Defs

/-!
# Integer constants as numbers

* `IntegerConstant` — an integer constant of C: what announces its base, its digits with the quotes
  that separate them, and the suffix for its type.
* `dropIntegerSuffix_append` — the suffix goes in whatever case its letters are, and no digit goes
  with it.
* `digits_chars`, `integer?_chars` — digits are read up to their end, as the number that they
  denote.
* `isFloating_token`, `base_token` — a constant is not taken for a float, and its beginning tells
  its base.
* `value?_integerConstant` — so an integer constant is read as its value.
-/

namespace HeaderIndex

/-! ## Integer constants -/

/-- A digit of a base up to sixteen, as it is written. -/
structure Digit (base : Nat) where
  value : Nat
  value_lt : value < base
  /-- whether a letter is written as a capital -/
  capital : Bool
  deriving DecidableEq, Repr

/-- The digit of a value: one of `0` to `9`, or a letter from `a` to `f` in either case. -/
def digitChar (value : Nat) (capital : Bool) : Char :=
  if capital then value.digitChar.toUpper else value.digitChar

/-- The character of a digit. -/
def Digit.char {base : Nat} (digit : Digit base) : Char := digitChar digit.value digit.capital

/-- One digit or more, with single quotes between any of them. -/
structure DigitSequence (base : Nat) where
  first : Digit base
  /-- the other digits, each with whether a quote stands in front of it -/
  more : List (Bool × Digit base)
  deriving DecidableEq, Repr

namespace DigitSequence

variable {base : Nat}

/-- The digits without the quotes. -/
def digits (s : DigitSequence base) : List (Digit base) := s.first :: s.more.map Prod.snd

theorem digits_ne_nil (s : DigitSequence base) : s.digits ≠ [] := List.cons_ne_nil _ _

/-- The digits and the quotes between them. -/
def text (s : DigitSequence base) : List Char :=
  s.first.char :: s.more.flatMap fun (separated, digit) =>
    if separated then ['\'', digit.char] else [digit.char]

/-- The number that the digits denote, the first one being the highest. -/
def value (s : DigitSequence base) : Nat := Nat.ofDigits base (s.digits.map Digit.value).reverse

end DigitSequence

/-- What stands in front of the digits of a base.  A constant in base ten starts with no zero, since
a zero announces base eight, and is a digit of it. -/
inductive Announces : (base : Nat) → (mark : List Char) → (first : Nat) → Prop
  | decimal {first : Nat} (nonzero : first ≠ 0) : Announces 10 [] first
  | octal : Announces 8 [] 0
  | hexadecimal {letter : Char} {first : Nat} (mem : letter ∈ ['x', 'X']) :
      Announces 16 ['0', letter] first
  | binary {letter : Char} {first : Nat} (mem : letter ∈ ['b', 'B']) :
      Announces 2 ['0', letter] first

/-- The suffixes for unsigned types. -/
def unsignedSuffixes : List String := ["u", "U"]

/-- The suffixes for long types.  Both letters of a double one are in the same case. -/
def longSuffixes : List String := ["l", "L", "ll", "LL"]

/-- The suffixes that an integer constant can have: at most one of each sort, in either order. -/
def typeSuffixes : List String :=
  "" :: unsignedSuffixes ++ longSuffixes ++
    unsignedSuffixes.flatMap (fun u => longSuffixes.map (u ++ ·)) ++
    longSuffixes.flatMap (fun l => unsignedSuffixes.map (l ++ ·))

/-- An integer constant. -/
structure IntegerConstant where
  base : Nat
  mark : List Char
  digits : DigitSequence base
  announced : Announces base mark digits.first.value
  suffix : String
  suffix_mem : suffix ∈ typeSuffixes

/-- An integer constant as it is spelled. -/
def IntegerConstant.spelling (k : IntegerConstant) : String :=
  String.ofList (k.mark ++ k.digits.text ++ k.suffix.toList)

/-- What an integer constant denotes. -/
def IntegerConstant.value (k : IntegerConstant) : Nat := k.digits.value

namespace Announces

variable {base first : Nat} {mark : List Char}

theorem cases (h : Announces base mark first) :
    (base = 10 ∧ mark = [] ∧ first ≠ 0) ∨ (base = 8 ∧ mark = [] ∧ first = 0) ∨
      (base = 16 ∧ ∃ letter ∈ ['x', 'X'], mark = ['0', letter]) ∨
      (base = 2 ∧ ∃ letter ∈ ['b', 'B'], mark = ['0', letter]) := by
  cases h with
  | decimal nonzero => exact .inl ⟨rfl, rfl, nonzero⟩
  | octal => exact .inr (.inl ⟨rfl, rfl, rfl⟩)
  | hexadecimal mem => exact .inr (.inr (.inl ⟨rfl, _, mem, rfl⟩))
  | binary mem => exact .inr (.inr (.inr ⟨rfl, _, mem, rfl⟩))

theorem base_le (h : Announces base mark first) : base ≤ 16 := by
  cases h <;> decide

end Announces

/-- The characters that announce bases. -/
def markLetters : List Char := ['0', 'x', 'X', 'b', 'B']

theorem Announces.mem_markLetters {base first : Nat} {mark : List Char}
    (h : Announces base mark first) : ∀ c ∈ mark, c ∈ markLetters := by
  have hmarked : ∀ letter ∈ ['x', 'X'] ++ ['b', 'B'], ∀ c ∈ ['0', letter], c ∈ markLetters := by
    intro letter hletter c hc
    rcases List.mem_pair.1 hc with rfl | rfl
    · exact List.mem_cons_self
    · exact List.mem_cons_of_mem _ hletter
  rcases h.cases with ⟨-, rfl, -⟩ | ⟨-, rfl, -⟩ | ⟨-, letter, hletter, rfl⟩ |
    ⟨-, letter, hletter, rfl⟩
  · simp
  · simp
  · exact hmarked letter (List.mem_append_left _ hletter)
  · exact hmarked letter (List.mem_append_right _ hletter)

/-! ## The characters of constants -/

/-- What the characters that announce bases are not. -/
theorem markLetters_spec : ∀ c ∈ markLetters,
    c.toNat < 0x80 ∧ Numeral.isBlank c = false ∧ c ∉ ['\'', '-', '+', '.'] ∧ c.toLower ≠ 'e' := by
  have hall : (markLetters.all fun c => decide (c.toNat < 0x80 ∧ Numeral.isBlank c = false ∧
      c ∉ ['\'', '-', '+', '.'] ∧ c.toLower ≠ 'e')) = true := by decide
  intro c hc
  exact of_decide_eq_true (List.all_eq_true.1 hall c hc)

/-- What the digits up to sixteen are read as, and what none of them is. -/
theorem digitChar_spec : ∀ value < 16, ∀ capital,
    Text.digitInBase? 16 (digitChar value capital) = some value ∧
      (digitChar value capital).toNat < 0x80 ∧
      Literal.isSuffixLetter (digitChar value capital).toUpper = false ∧
      Numeral.isBlank (digitChar value capital) = false ∧
      digitChar value capital ∉ ['\'', '_', '-', '+', '.'] := by
  decide +kernel

/-- What the digits up to ten are, and what none of them is in lower case. -/
theorem digitChar_small : ∀ value < 10, ∀ capital,
    (digitChar value capital).toLower ∉ ['b', 'x'] ∧ (digitChar value capital).toLower ≠ 'e' ∧
      Text.isDigit (digitChar value capital) = true ∧
      (digitChar value capital = '0' ↔ value = 0) := by
  decide +kernel

namespace Digit

variable {base : Nat}

theorem value_lt_sixteen (hbase : base ≤ 16) (digit : Digit base) : digit.value < 16 :=
  Nat.lt_of_lt_of_le digit.value_lt hbase

theorem digitInBase?_char (hbase : base ≤ 16) (digit : Digit base) :
    Text.digitInBase? base digit.char = some digit.value := by
  have hsixteen : Text.digitInBase? 16 digit.char = some digit.value :=
    (digitChar_spec digit.value (digit.value_lt_sixteen hbase) digit.capital).1
  unfold Text.digitInBase? at hsixteen ⊢
  rw [Option.filter_eq_some_iff] at hsixteen ⊢
  exact ⟨hsixteen.1, by simpa using digit.value_lt⟩

theorem char_notMem (hbase : base ≤ 16) (digit : Digit base) :
    digit.char ∉ ['\'', '_', '-', '+', '.'] :=
  (digitChar_spec digit.value (digit.value_lt_sixteen hbase) digit.capital).2.2.2.2

theorem ascii_char (hbase : base ≤ 16) (digit : Digit base) : digit.char.toNat < 0x80 :=
  (digitChar_spec digit.value (digit.value_lt_sixteen hbase) digit.capital).2.1

theorem isBlank_char (hbase : base ≤ 16) (digit : Digit base) :
    Numeral.isBlank digit.char = false :=
  (digitChar_spec digit.value (digit.value_lt_sixteen hbase) digit.capital).2.2.2.1

theorem small (hbase : base ≤ 10) (digit : Digit base) :
    digit.char.toLower ∉ ['b', 'x'] ∧ digit.char.toLower ≠ 'e' ∧ Text.isDigit digit.char = true ∧
      (digit.char = '0' ↔ digit.value = 0) :=
  digitChar_small digit.value (Nat.lt_of_lt_of_le digit.value_lt hbase) digit.capital

end Digit

/-! ## Reading digits -/

namespace Numeral

variable {base : Nat} {text : List Char}

theorem trim_eq_self (h : ∀ c ∈ text, isBlank c = false) : trim text = text := by
  have hdrop : ∀ text : List Char, (∀ c ∈ text, isBlank c = false) →
      text.dropWhile isBlank = text := by
    intro text h
    cases text with
    | nil => rfl
    | cons c rest => rw [List.dropWhile_cons_of_neg (by simp [h c List.mem_cons_self])]
  rw [trim, hdrop text h, hdrop text.reverse fun c hc => h c (List.mem_reverse.1 hc),
    List.reverse_reverse]

theorem sign_eq_self (h : ∀ c ∈ text.head?, c ≠ '-' ∧ c ≠ '+') : sign text = (false, text) := by
  unfold sign
  split
  · exact absurd rfl (h '-' rfl).1
  · exact absurd rfl (h '+' rfl).2
  · rfl

theorem moreDigits_cons {c : Char} {d : Nat} (hne : c ≠ '_')
    (hd : Text.digitInBase? base c = some d) (rest : List Char) :
    moreDigits base (c :: rest) =
      (d :: (moreDigits base rest).1, (moreDigits base rest).2) := by
  rw [moreDigits.eq_def]
  split
  · rename_i heq
    exact absurd (List.cons.inj heq).1 hne
  · rename_i heq
    obtain ⟨rfl, rfl⟩ := List.cons.inj heq
    rw [hd]
  · rename_i heq
    cases heq

theorem moreDigits_chars (hbase : base ≤ 16) (ds : List (Digit base)) :
    moreDigits base (ds.map Digit.char) = (ds.map Digit.value, []) := by
  induction ds with
  | nil => rfl
  | cons digit rest ih =>
    have hne : digit.char ≠ '_' := fun h => digit.char_notMem hbase (by simp [h])
    rw [List.map_cons, moreDigits_cons hne (digit.digitInBase?_char hbase), ih]
    rfl

theorem digits_chars (hbase : base ≤ 16) (ds : List (Digit base)) :
    digits base (ds.map Digit.char) = (ds.map Digit.value, []) := by
  cases ds with
  | nil => rfl
  | cons digit rest =>
    simp [digits, digit.digitInBase?_char hbase, moreDigits_chars hbase]

/-- Digits denote a number from the first one down as they do from the last one up. -/
theorem ofDigits_eq (base : Nat) (ds : List Nat) :
    ofDigits base ds = Nat.ofDigits base ds.reverse := by
  rw [Nat.ofDigits_eq_foldr, List.foldr_reverse, ofDigits]
  congr 1
  funext value d
  simp only [Nat.cast_id]
  rw [Nat.mul_comm, Nat.add_comm]

/-- A text of digits and marks starts with no sign and has no blanks at its ends. -/
theorem sign_trim (hbase : base ≤ 16) {mark : List Char} (hmark : ∀ c ∈ mark, c ∈ markLetters)
    (ds : List (Digit base)) :
    sign (trim (mark ++ ds.map Digit.char)) = (false, mark ++ ds.map Digit.char) := by
  have hplain : ∀ c ∈ mark ++ ds.map Digit.char, isBlank c = false ∧ c ≠ '-' ∧ c ≠ '+' := by
    intro c hc
    rcases List.mem_append.1 hc with hc | hc
    · obtain ⟨-, hblank, hnotMem, -⟩ := markLetters_spec c (hmark c hc)
      simp only [List.mem_cons, not_or] at hnotMem
      exact ⟨hblank, hnotMem.2.1, hnotMem.2.2.1⟩
    · obtain ⟨digit, _, rfl⟩ := List.mem_map.1 hc
      have hnotMem := digit.char_notMem hbase
      simp only [List.mem_cons, not_or] at hnotMem
      exact ⟨digit.isBlank_char hbase, hnotMem.2.2.1, hnotMem.2.2.2.1⟩
  rw [trim_eq_self fun c hc => (hplain c hc).1]
  exact sign_eq_self fun c hc => (hplain c (List.mem_of_mem_head? hc)).2

/-- Digits behind the mark of their base are an integer, unless they are decimal and too many. -/
theorem integer?_chars (hbase : base ≤ 16) {mark : List Char} {ds : List (Digit base)}
    (hne : ds ≠ []) (hmark : ∀ c ∈ mark, c ∈ markLetters)
    (hdrop : dropBase base (mark ++ ds.map Digit.char) = ds.map Digit.char) :
    integer? base (mark ++ ds.map Digit.char) =
      if base = 10 ∧ maxDecimalDigits < ds.length then none
      else some ((Nat.ofDigits base (ds.map Digit.value).reverse : Nat) : Int) := by
  unfold integer?
  rw [sign_trim hbase hmark]
  dsimp only
  rw [hdrop, digits_chars hbase]
  obtain ⟨digit, rest, rfl⟩ := List.exists_cons_of_ne_nil hne
  simp [ofDigits_eq]

theorem dropBase_of_baseLetters_eq_nil (h : baseLetters base = []) (text : List Char) :
    dropBase base text = text := by
  unfold dropBase
  split
  · rw [h]
    rfl
  · rfl

theorem dropBase_mark {letter : Char} (h : letter ∈ baseLetters base)
    (hne : ∀ c ∈ text.head?, c ≠ '_') : dropBase base ('0' :: letter :: text) = text := by
  unfold dropBase
  simp only [if_pos h]
  split
  · exact absurd rfl (hne '_' rfl)
  · rfl

/-- The digits of a constant are what is behind its mark. -/
theorem dropBase_announced {mark : List Char} {s : DigitSequence base}
    (h : Announces base mark s.first.value) :
    dropBase base (mark ++ s.digits.map Digit.char) = s.digits.map Digit.char := by
  have hne : ∀ c ∈ (s.digits.map Digit.char).head?, c ≠ '_' := by
    intro c hc heq
    obtain rfl : s.first.char = c := by simpa [DigitSequence.digits] using hc
    exact s.first.char_notMem h.base_le (by simp [heq])
  generalize s.first.value = first at h
  cases h with
  | decimal => exact dropBase_of_baseLetters_eq_nil rfl _
  | octal => exact dropBase_of_baseLetters_eq_nil rfl _
  | hexadecimal mem => exact dropBase_mark mem hne
  | binary mem => exact dropBase_mark mem hne

end Numeral

namespace Literal

/-! ## Suffixes -/

/-- The letters of suffixes as they are written. -/
def typeLetters : List Char := ['u', 'U', 'l', 'L']

theorem mem_typeLetters {suffix : String} (h : suffix ∈ typeSuffixes) :
    ∀ c ∈ suffix.toList, c ∈ typeLetters := by
  have hall : (typeSuffixes.all fun suffix =>
      suffix.toList.all fun c => decide (c ∈ typeLetters)) = true := by decide
  intro c hc
  simpa using List.all_eq_true.1 (List.all_eq_true.1 hall suffix h) c hc

/-- What the letters of suffixes are not, and what none of them is in lower case. -/
theorem typeLetters_spec : ∀ c ∈ typeLetters,
    c.toNat < 0x80 ∧ c ∉ ['\'', '.'] ∧ c.toLower ∉ ['b', 'x'] ∧ c.toLower ≠ 'e' := by
  have hall : (typeLetters.all fun c => decide (c.toNat < 0x80 ∧ c ∉ ['\'', '.'] ∧
      c.toLower ∉ ['b', 'x'] ∧ c.toLower ≠ 'e')) = true := by decide
  intro c hc
  exact of_decide_eq_true (List.all_eq_true.1 hall c hc)

theorem ascii_typeSuffix {suffix : String} (h : suffix ∈ typeSuffixes) :
    ∀ c ∈ suffix.toList, c.toNat < 0x80 :=
  fun c hc => (typeLetters_spec c (mem_typeLetters h c hc)).1

/-- Each suffix is found as a whole where it stands alone. -/
theorem find?_typeSuffix {suffix : String} (h : suffix ∈ typeSuffixes) :
    integerSuffixes.find? (·.isSuffixOf (Text.upper suffix.toList)) =
      if suffix = "" then none else some (Text.upper suffix.toList) := by
  have hall : (typeSuffixes.all fun suffix =>
      decide (integerSuffixes.find? (·.isSuffixOf (Text.upper suffix.toList)) =
        if suffix = "" then none else some (Text.upper suffix.toList))) = true := by decide +kernel
  simpa using List.all_eq_true.1 hall suffix h

/-- **The suffix of a constant goes**, and no digit goes with it. -/
theorem dropIntegerSuffix_append {last : Char} {suffix : String} (hlast : last.toNat < 0x80)
    (hletter : isSuffixLetter last.toUpper = false) (hsuffix : suffix ∈ typeSuffixes)
    (front : List Char) :
    dropIntegerSuffix (front ++ [last] ++ suffix.toList) = front ++ [last] := by
  have hupper : Text.upper (front ++ [last] ++ suffix.toList) =
      Text.upper front ++ last.toUpper :: Text.upper suffix.toList := by
    simp [Text.upper, Text.upperChar_of_ascii hlast]
  have hfind : integerSuffixes.find? (·.isSuffixOf (Text.upper (front ++ [last] ++ suffix.toList)))
      = integerSuffixes.find? (·.isSuffixOf (Text.upper suffix.toList)) := by
    rw [hupper]
    refine List.find?_congr fun written hwritten => ?_
    rw [Bool.eq_iff_iff, List.isSuffixOf_iff_suffix, List.isSuffixOf_iff_suffix]
    exact suffix_append_cons_iff (isSuffixLetter_of_mem hwritten) hletter
  rw [dropIntegerSuffix, hfind, find?_typeSuffix hsuffix]
  by_cases hnone : suffix = ""
  · simp [hnone]
  · have hlength : (Text.upper suffix.toList).length = suffix.toList.length := by
      rw [Text.upper_of_ascii (ascii_typeSuffix hsuffix), List.length_map]
    rw [if_neg hnone]
    dsimp only
    rw [hlength, List.length_append, Nat.add_sub_cancel, List.take_left]

end Literal

namespace IntegerConstant

/-! ## The token of a constant -/

/-- A constant without the quotes between its digits. -/
def token (k : IntegerConstant) : List Char :=
  k.mark ++ k.digits.digits.map Digit.char ++ k.suffix.toList

theorem filter_text {base : Nat} (hbase : base ≤ 16) (s : DigitSequence base) :
    s.text.filter (· ≠ '\'') = s.digits.map Digit.char := by
  have hne : ∀ digit : Digit base, digit.char ≠ '\'' :=
    fun digit h => digit.char_notMem hbase (by simp [h])
  obtain ⟨first, more⟩ := s
  rw [DigitSequence.text, DigitSequence.digits, List.map_cons,
    List.filter_cons_of_pos (by simp [hne first])]
  congr 1
  induction more with
  | nil => rfl
  | cons next rest ih =>
    obtain ⟨separated, digit⟩ := next
    rw [List.flatMap_cons, List.filter_append, ih]
    cases separated <;> simp [hne digit]

theorem withoutSeparators_spelling (k : IntegerConstant) :
    Literal.withoutSeparators k.spelling = k.token := by
  have hmark : k.mark.filter (· ≠ '\'') = k.mark := by
    rw [List.filter_eq_self]
    intro c hc
    have hspec := markLetters_spec c (k.announced.mem_markLetters c hc)
    simpa using List.ne_of_not_mem_cons hspec.2.2.1
  have hsuffix : k.suffix.toList.filter (· ≠ '\'') = k.suffix.toList := by
    rw [List.filter_eq_self]
    intro c hc
    have hspec := Literal.typeLetters_spec c (Literal.mem_typeLetters k.suffix_mem c hc)
    simpa using List.ne_of_not_mem_cons hspec.2.1
  rw [Literal.withoutSeparators, spelling, String.toList_ofList, List.filter_append,
    List.filter_append, hmark, hsuffix, filter_text k.announced.base_le, token]

/-- What holds of marks, of the digits of the base and of suffixes holds of every character. -/
theorem forall_mem_token (k : IntegerConstant) {p : Char → Prop}
    (hmark : ∀ c ∈ k.mark, p c) (hdigit : ∀ digit : Digit k.base, p digit.char)
    (hsuffix : ∀ c ∈ Literal.typeLetters, p c) : ∀ c ∈ k.token, p c := by
  intro c hc
  rcases List.mem_append.1 hc with hc | hc
  · rcases List.mem_append.1 hc with hc | hc
    · exact hmark c hc
    · obtain ⟨digit, _, rfl⟩ := List.mem_map.1 hc
      exact hdigit digit
  · exact hsuffix c (Literal.mem_typeLetters k.suffix_mem c hc)

theorem ascii_token (k : IntegerConstant) : ∀ c ∈ k.token, c.toNat < 0x80 := by
  refine k.forall_mem_token ?_ ?_ ?_
  · intro c hc
    exact (markLetters_spec c (k.announced.mem_markLetters c hc)).1
  · intro digit
    exact digit.ascii_char k.announced.base_le
  · intro c hc
    exact (Literal.typeLetters_spec c hc).1

theorem dropIntegerSuffix_token (k : IntegerConstant) :
    Literal.dropIntegerSuffix k.token = k.mark ++ k.digits.digits.map Digit.char := by
  obtain ⟨front, last, hdigits⟩ :=
    (List.eq_nil_or_concat' k.digits.digits).resolve_left k.digits.digits_ne_nil
  have hspec := digitChar_spec last.value (last.value_lt_sixteen k.announced.base_le) last.capital
  have hdrop : Literal.dropIntegerSuffix
      (k.mark ++ front.map Digit.char ++ [last.char] ++ k.suffix.toList) =
        k.mark ++ front.map Digit.char ++ [last.char] :=
    Literal.dropIntegerSuffix_append hspec.2.1 hspec.2.2.1 k.suffix_mem _
  rw [token, hdigits, List.map_append, List.map_singleton, ← List.append_assoc, hdrop]

/-! ## The base of a constant -/

theorem lower_token (k : IntegerConstant) : Text.lower k.token = k.token.map Char.toLower :=
  Text.lower_of_ascii k.ascii_token

/-- A marked constant starts with its mark. -/
theorem isPrefixOf_lower_token (k : IntegerConstant) {letter : Char}
    (hmark : k.mark = ['0', letter]) (sought : Char) :
    ['0', sought].isPrefixOf (Text.lower k.token) = (sought == letter.toLower) := by
  rw [lower_token, token, hmark]
  simp [List.isPrefixOf]

/-- Without a mark nothing in a constant announces a base of its own. -/
theorem isPrefixOf_of_unmarked (k : IntegerConstant) (hmark : k.mark = []) (hbase : k.base ≤ 10) :
    ∀ sought ∈ ['b', 'x'], ['0', sought].isPrefixOf (Text.lower k.token) = false := by
  have hplain : ∀ c ∈ k.token, c.toLower ∉ ['b', 'x'] := by
    refine k.forall_mem_token ?_ ?_ ?_
    · intro c hc
      rw [hmark] at hc
      cases hc
    · intro digit
      exact (digit.small hbase).1
    · intro c hc
      exact (Literal.typeLetters_spec c hc).2.2.1
  intro sought hsought
  rw [Bool.eq_false_iff, ne_eq, List.isPrefixOf_iff_prefix, lower_token]
  intro hbegins
  obtain ⟨c, hc, heq⟩ := List.mem_map.1 (hbegins.subset (by simp : sought ∈ ['0', sought]))
  exact hplain c hc (heq ▸ hsought)

/-- A constant in base ten or less has neither a point nor an exponent. -/
theorem isFloating_of_base_le (k : IntegerConstant) (hbase : k.base ≤ 10) :
    Literal.isFloating k.token = false := by
  have hplain : ∀ c ∈ k.token, c ≠ '.' ∧ c.toLower ≠ 'e' := by
    refine k.forall_mem_token ?_ ?_ ?_
    · intro c hc
      obtain ⟨-, -, hnotMem, hexponent⟩ := markLetters_spec c (k.announced.mem_markLetters c hc)
      exact ⟨fun h => hnotMem (by simp [h]), hexponent⟩
    · intro digit
      exact ⟨fun h => digit.char_notMem k.announced.base_le (by simp [h]), (digit.small hbase).2.1⟩
    · intro c hc
      obtain ⟨-, hnotMem, -, hexponent⟩ := Literal.typeLetters_spec c hc
      exact ⟨fun h => hnotMem (by simp [h]), hexponent⟩
  have hpoint : k.token.contains '.' = false := by
    simpa using fun hmem => (hplain '.' hmem).1 rfl
  have hexponent : (Text.lower k.token).contains 'e' = false := by
    rw [lower_token]
    simpa using fun c hc => (hplain c hc).2
  rw [Literal.isFloating, hpoint, hexponent]
  simp

theorem isFloating_token (k : IntegerConstant) : Literal.isFloating k.token = false := by
  rcases k.announced.cases with ⟨hbase, -⟩ | ⟨hbase, -⟩ | ⟨-, letter, hmem, hmark⟩ | ⟨hbase, -⟩
  · exact k.isFloating_of_base_le (by omega)
  · exact k.isFloating_of_base_le (by omega)
  · have hhexadecimal : Literal.isHexadecimal k.token = true := by
      rw [Literal.isHexadecimal, k.isPrefixOf_lower_token hmark]
      rcases List.mem_pair.1 hmem with rfl | rfl <;> rfl
    simp [Literal.isFloating, hhexadecimal]
  · exact k.isFloating_of_base_le (by omega)

/-- Digits that start with a zero are octal if there are others behind it. -/
theorem isOctal_chars {base : Nat} (hbase : base ≤ 10) (s : DigitSequence base) :
    Literal.isOctal (s.digits.map Digit.char) = decide (s.first.value = 0 ∧ s.more ≠ []) := by
  have hzero : s.first.char = '0' ↔ s.first.value = 0 := (s.first.small hbase).2.2.2
  have hdigits : (s.digits.map Digit.char).all Text.isDigit = true := by
    rw [List.all_eq_true]
    intro c hc
    obtain ⟨digit, _, rfl⟩ := List.mem_map.1 hc
    exact (digit.small hbase).2.2.1
  obtain ⟨first, more⟩ := s
  rw [DigitSequence.digits, List.map_cons] at hdigits ⊢
  dsimp only at hzero hdigits ⊢
  cases more with
  | nil => simp [Literal.isOctal]
  | cons next rest =>
    by_cases hfirst : first.value = 0
    · rw [hzero.2 hfirst, List.all_cons, Bool.and_eq_true] at hdigits
      rw [hzero.2 hfirst]
      simpa [Literal.isOctal, hfirst] using hdigits.2
    · have hchar : first.char ≠ '0' := fun h => hfirst (hzero.1 h)
      simp [Literal.isOctal, hfirst, hchar]

/-- The beginning of a constant tells its base, but for a zero that stands alone. -/
theorem base_token (k : IntegerConstant) :
    Literal.base k.token (k.mark ++ k.digits.digits.map Digit.char) =
      if k.base = 8 ∧ k.digits.more = [] then 10 else k.base := by
  have hunmarked : k.mark = [] → k.base ≤ 10 →
      Literal.base k.token (k.mark ++ k.digits.digits.map Digit.char) =
        if k.digits.first.value = 0 ∧ k.digits.more ≠ [] then 8 else 10 := by
    intro hmark hbase
    have happart := k.isPrefixOf_of_unmarked hmark hbase
    rw [Literal.base, Literal.isHexadecimal, happart 'x' (by simp), Literal.isBinary,
      happart 'b' (by simp), hmark, List.nil_append, isOctal_chars hbase]
    simp
  rcases k.announced.cases with ⟨hbase, hmark, hfirst⟩ | ⟨hbase, hmark, hfirst⟩ |
    ⟨hbase, letter, hmem, hmark⟩ | ⟨hbase, letter, hmem, hmark⟩
  · rw [hunmarked hmark (by omega)]
    simp [hbase, hfirst]
  · rw [hunmarked hmark (by omega)]
    by_cases hmore : k.digits.more = []
    · simp [hbase, hmore]
    · simp [hbase, hfirst, hmore]
  · have hletter : letter.toLower = 'x' := by rcases List.mem_pair.1 hmem with rfl | rfl <;> rfl
    rw [Literal.base, Literal.isHexadecimal, k.isPrefixOf_lower_token hmark, hletter]
    simp [hbase]
  · have hletter : letter.toLower = 'b' := by rcases List.mem_pair.1 hmem with rfl | rfl <;> rfl
    rw [Literal.base, Literal.isHexadecimal, Literal.isBinary, k.isPrefixOf_lower_token hmark,
      k.isPrefixOf_lower_token hmark, hletter]
    simp [hbase]

/-- A zero that stands alone is read as in base ten. -/
theorem integer?_zero (k : IntegerConstant) (hbase : k.base = 8) (hmore : k.digits.more = []) :
    Numeral.integer? 10 (k.mark ++ k.digits.digits.map Digit.char) = some (k.value : Int) := by
  obtain ⟨base, mark, ⟨first, more⟩, announced, suffix, hsuffix⟩ := k
  dsimp only at hbase hmore
  subst hbase hmore
  obtain ⟨rfl, hfirst⟩ : mark = [] ∧ first.value = 0 := by
    simpa using announced.cases
  have hchar : first.char = '0' := (first.small (by decide)).2.2.2.2 hfirst
  have hread : Numeral.integer? 10 ['0'] = some 0 := by decide
  simpa [DigitSequence.digits, hchar, value, DigitSequence.value, hfirst] using hread

end IntegerConstant

namespace Literal

/-- **An integer constant is read as its value**, unless it is decimal and has more digits than a
decimal numeral may have. -/
theorem value?_integerConstant (k : IntegerConstant) :
    value? k.spelling =
      if k.base = 10 ∧ Numeral.maxDecimalDigits < k.digits.digits.length then none
      else some (.int k.value) := by
  rw [value?_eq, k.withoutSeparators_spelling, k.dropIntegerSuffix_token, k.isFloating_token,
    k.base_token, if_neg Bool.false_ne_true]
  by_cases hzero : k.base = 8 ∧ k.digits.more = []
  · rw [if_pos hzero, k.integer?_zero hzero.1 hzero.2, if_neg (by simp [hzero.1])]
    rfl
  · rw [if_neg hzero, Numeral.integer?_chars k.announced.base_le k.digits.digits_ne_nil
      k.announced.mem_markLetters (Numeral.dropBase_announced k.announced)]
    split <;> rfl

/-- A quote between digits that are letters, and a suffix in two cases. -/
theorem value?_integerConstant_letters :
    let k : IntegerConstant :=
      ⟨16, ['0', 'X'], ⟨⟨15, by decide, true⟩, [(true, ⟨14, by decide, false⟩)]⟩,
        .hexadecimal (by decide), "uLL", by decide⟩
    k.spelling = "0XF'euLL" ∧ k.value = 254 ∧ value? "0XF'euLL" = some (.int 254) := by
  intro k
  have hspelling : k.spelling = "0XF'euLL" := by decide
  have hvalue : k.value = 254 := by decide
  have hread := value?_integerConstant k
  rw [hspelling, hvalue, if_neg fun h => absurd h.1 (by decide)] at hread
  exact ⟨hspelling, hvalue, hread⟩

end Literal

end HeaderIndex
