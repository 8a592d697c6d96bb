import HeaderIndex.Json.Printer
import HeaderIndex.Json.Reader
import Mathlib.Data.List.Basic
import Mathlib.Data.List.TakeDrop

/-!
# Numbers in JSON and back

* `IsNumeral` — the texts of numbers that are no integers: digits with a fraction or an exponent, and
  the words for what is not finite.
* `StandardExponent` — the exponents that may be read, of which `IsExponent` has those that are printed.
* `Stops`, `Ends` — what may stand behind a number: nothing, or no part of one; and behind a value that
  is printed: nothing, or a character that separates values.
* `unsigned?_append` — digits with a fraction and an exponent are read up to the text behind them.
* `scalar?_int`, `scalar?_numeral` — so are the digits of an integer, as this integer, and a numeral,
  as it is written.
-/

namespace HeaderIndex.Json

/-- One or more digits. -/
structure Digits (ds : List Char) : Prop where
  ne_nil : ds ≠ []
  isDigit : ∀ c ∈ ds, c.isDigit = true

/-- Digits that start with a zero only if there is no other one. -/
structure WholeDigits (ds : List Char) : Prop extends Digits ds where
  leading : ds.head? = some '0' → ds = ['0']

/-- Nothing, or a point with digits behind it. -/
inductive IsFraction : List Char → Prop
  | nothing : IsFraction []
  | digits {ds : List Char} (h : Digits ds) : IsFraction ('.' :: ds)

/-- Nothing, or an exponent with its sign. -/
inductive IsExponent : List Char → Prop
  | nothing : IsExponent []
  | digits {sign : Char} {ds : List Char} (hsign : sign = '+' ∨ sign = '-') (h : Digits ds) :
      IsExponent ('e' :: sign :: ds)

/-- Nothing, or an exponent with a letter of either case and with a sign or none. -/
inductive StandardExponent : List Char → Prop
  | nothing : StandardExponent []
  | digits {letter : Char} {sign ds : List Char} (hletter : letter = 'e' ∨ letter = 'E')
      (hsign : sign = [] ∨ sign = ['+'] ∨ sign = ['-']) (h : Digits ds) :
      StandardExponent (letter :: (sign ++ ds))

theorem IsExponent.standard {exponent : List Char} (h : IsExponent exponent) :
    StandardExponent exponent := by
  cases h with
  | nothing => exact .nothing
  | @digits sign ds hsign h =>
    rcases hsign with rfl | rfl
    · exact .digits (.inl rfl) (.inr (.inl rfl)) h
    · exact .digits (.inl rfl) (.inr (.inr rfl)) h

/-- Whether a text is that of a number which is no integer. -/
inductive IsNumeral : String → Prop
  | notANumber : IsNumeral "NaN"
  | infinity : IsNumeral "Infinity"
  | negativeInfinity : IsNumeral "-Infinity"
  | decimal {whole fraction exponent : List Char} (negative : Bool) (hwhole : WholeDigits whole)
      (hfraction : IsFraction fraction) (hexponent : IsExponent exponent)
      (hreal : ¬ (fraction = [] ∧ exponent = [])) :
      IsNumeral (String.ofList (if negative then '-' :: (whole ++ fraction ++ exponent)
        else whole ++ fraction ++ exponent))

/-- Whether a text does not go on with a number in front of it. -/
def Stops (rest : List Char) : Prop :=
  ∀ c ∈ rest.head?, c.isDigit = false ∧ c ≠ '.' ∧ c ≠ 'e' ∧ c ≠ 'E'

/-- Whether a text may stand behind a value that is printed. -/
def Ends (rest : List Char) : Prop := ∀ c ∈ rest.head?, c = ',' ∨ c = '\n'

theorem Ends.stops {rest : List Char} (h : Ends rest) : Stops rest := by
  intro c hc
  rcases h c hc with rfl | rfl
  · decide
  · decide

/-! ## Digits -/

theorem digits_append {ds rest : List Char} (hds : ∀ c ∈ ds, c.isDigit = true)
    (hrest : ∀ c ∈ rest.head?, c.isDigit = false) : digits (ds ++ rest) = (ds, rest) := by
  have hstop : rest.takeWhile Char.isDigit = [] ∧ rest.dropWhile Char.isDigit = rest := by
    cases rest with
    | nil => exact ⟨rfl, rfl⟩
    | cons c rest => simp [hrest c rfl]
  rw [digits, List.span_eq_takeWhile_dropWhile, List.takeWhile_append_of_pos hds,
    List.dropWhile_append_of_pos hds, hstop.1, hstop.2, List.append_nil]

theorem head?_toDigits {n : Nat} (h : (Nat.toDigits 10 n).head? = some '0') : n = 0 := by
  induction n using Nat.strongRecOn with
  | ind n ih =>
    rcases Nat.lt_or_ge n 10 with hlt | hge
    · have hall : ∀ n < 10, (Nat.toDigits 10 n).head? = some '0' → n = 0 := by decide
      exact hall n hlt h
    · -- the first digit is that of the number without its last digit
      rw [Nat.toDigits_of_base_le (by decide) hge,
        List.head?_append_of_ne_nil _ Nat.toDigits_ne_nil] at h
      have hzero := ih (n / 10) (by omega) h
      omega

theorem wholeDigits_toDigits (n : Nat) : WholeDigits (Nat.toDigits 10 n) where
  ne_nil := Nat.toDigits_ne_nil
  isDigit _ hc := Nat.isDigit_of_mem_toDigits (by decide) (by decide) hc
  leading h := by rw [head?_toDigits h]; rfl

theorem natOfDigits_toDigits (n : Nat) : natOfDigits (Nat.toDigits 10 n) = n := by
  have h := Nat.ofDigitChars_ten_toDigits (n := n)
  simpa only [Nat.ofDigitChars, natOfDigits, Nat.mul_comm 10] using h

/-! ## Parts of numbers -/

theorem fraction?_append {fraction next : List Char} (h : IsFraction fraction)
    (hdigit : ∀ c ∈ next.head?, c.isDigit = false) (hpoint : ∀ c ∈ next.head?, c ≠ '.') :
    fraction? (fraction ++ next) = some (fraction, next) := by
  cases h with
  | nothing =>
    cases next with
    | nil => rfl
    | cons c next =>
      unfold fraction?
      split
      · rename_i heq
        exact absurd (List.cons.inj heq).1 (hpoint c rfl)
      · rfl
  | @digits ds h =>
    rw [List.cons_append, fraction?, digits_append h.isDigit hdigit]
    split
    · rename_i heq
      exact absurd (Prod.mk.inj heq).1 h.ne_nil
    · rename_i heq
      obtain ⟨rfl, rfl⟩ := Prod.mk.inj heq
      rfl

/-- In front of digits there is no sign that was not read. -/
theorem exponent?_letter {letter : Char} (hletter : letter = 'e' ∨ letter = 'E')
    {sign ds rest : List Char} (hsign : sign = [] ∨ sign = ['+'] ∨ sign = ['-']) (h : Digits ds)
    (hrest : ∀ c ∈ rest.head?, c.isDigit = false) :
    exponent? (letter :: (sign ++ (ds ++ rest))) = some (letter :: (sign ++ ds), rest) := by
  have hdigits : digits (ds ++ rest) = (ds, rest) := digits_append h.isDigit hrest
  obtain ⟨d, more, rfl⟩ := List.exists_cons_of_ne_nil h.ne_nil
  rcases hsign with rfl | rfl | rfl
  · have hd := h.isDigit d List.mem_cons_self
    have hminus : d ≠ '-' := fun heq => by rw [heq] at hd; cases hd
    have hplus : d ≠ '+' := fun heq => by rw [heq] at hd; cases hd
    rw [List.cons_append] at hdigits
    simp [exponent?, hletter, hminus, hplus, hdigits]
  all_goals
    simp only [exponent?, List.singleton_append, if_pos hletter, hdigits]
    rfl

theorem exponent?_append {exponent rest : List Char} (h : StandardExponent exponent)
    (hrest : Stops rest) : exponent? (exponent ++ rest) = some (exponent, rest) := by
  cases h with
  | nothing =>
    cases rest with
    | nil => rfl
    | cons c rest =>
      obtain ⟨-, -, he, hE⟩ := hrest c rfl
      exact if_neg (by simp [he, hE])
  | digits hletter hsign h =>
    rw [List.cons_append, List.append_assoc]
    exact exponent?_letter hletter hsign h fun c hc => (hrest c hc).1

/-- Behind whole digits stands no further digit, and behind these and a fraction no point. -/
theorem isDigit_head?_append {fraction exponent rest : List Char} (hfraction : IsFraction fraction)
    (hexponent : StandardExponent exponent) (hrest : Stops rest) :
    ∀ c ∈ (fraction ++ (exponent ++ rest)).head?, c.isDigit = false := by
  cases hfraction with
  | nothing =>
    cases hexponent with
    | nothing => exact fun c hc => (hrest c hc).1
    | digits hletter => rcases hletter with rfl | rfl <;> simp
  | digits => simp

/-- Digits with a fraction and an exponent are read up to the text behind them. -/
theorem unsigned?_append {whole fraction exponent rest : List Char} (negative : Bool)
    (hwhole : WholeDigits whole) (hfraction : IsFraction fraction)
    (hexponent : StandardExponent exponent) (hrest : Stops rest) :
    unsigned? negative (whole ++ (fraction ++ (exponent ++ rest))) =
      some (if fraction = [] ∧ exponent = [] then
          .int (if negative then -(natOfDigits whole : Int) else natOfDigits whole)
        else .real (String.ofList (if negative then '-' :: (whole ++ fraction ++ exponent)
          else whole ++ fraction ++ exponent)), rest) := by
  have hdigits : digits (whole ++ (fraction ++ (exponent ++ rest))) =
      (whole, fraction ++ (exponent ++ rest)) :=
    digits_append hwhole.isDigit (isDigit_head?_append hfraction hexponent hrest)
  have hfraction' : fraction? (fraction ++ (exponent ++ rest)) = some (fraction, exponent ++ rest) :=
    fraction?_append hfraction (isDigit_head?_append .nothing hexponent hrest) (by
      cases hexponent with
      | nothing => exact fun c hc => (hrest c hc).2.1
      | digits hletter => rcases hletter with rfl | rfl <;> simp)
  have hexponent' : exponent? (exponent ++ rest) = some (exponent, rest) :=
    exponent?_append hexponent hrest
  unfold unsigned?
  rw [hdigits]
  split
  · rename_i heq
    exact absurd (Prod.mk.inj heq).1 hwhole.ne_nil
  · rename_i heq
    have hleading := hwhole.leading (by rw [(Prod.mk.inj heq).1]; rfl)
    rw [(Prod.mk.inj heq).1] at hleading
    cases hleading
  · rename_i heq
    obtain ⟨rfl, rfl⟩ := Prod.mk.inj heq
    simp only [hfraction', hexponent', Option.bind_eq_bind, Option.bind_some, Option.pure_def]
    split <;> rfl

/-! ## Words and numbers -/

theorem word?_of_isDigit (word : String)
    (hword : word.toList.head?.any (fun first => !first.isDigit) = true) {c : Char}
    (h : c.isDigit = true) (rest : List Char) : word? word (c :: rest) = none := by
  cases hcs : word.toList with
  | nil => simp [hcs] at hword
  | cons first more =>
    have hne : first ≠ c := by
      rintro rfl
      simp [hcs, h] at hword
    simp [word?, hcs, List.isPrefixOf, hne]

/-- What starts with a digit is a number. -/
theorem scalar?_of_isDigit {c : Char} (h : c.isDigit = true) (rest : List Char) :
    scalar? (c :: rest) = unsigned? false (c :: rest) := by
  unfold scalar?
  rw [word?_of_isDigit "null" rfl h, word?_of_isDigit "true" rfl h,
    word?_of_isDigit "false" rfl h, word?_of_isDigit "NaN" rfl h,
    word?_of_isDigit "Infinity" rfl h, word?_of_isDigit "-Infinity" rfl h]
  split
  · rename_i heq
    obtain rfl := (List.cons.inj heq).1
    cases h
  · rfl

/-- What starts with a sign and a digit is a negative number. -/
theorem scalar?_of_minus {c : Char} (h : c.isDigit = true) (rest : List Char) :
    scalar? ('-' :: c :: rest) = unsigned? true (c :: rest) := by
  have hinfinity : word? "-Infinity" ('-' :: c :: rest) = none := by
    have hne : 'I' ≠ c := by
      rintro rfl
      cases h
    simp [word?, List.isPrefixOf, hne]
  unfold scalar?
  rw [hinfinity]
  rfl

/-- Digits behind a sign or none are read as a number. -/
theorem scalar?_append {whole : List Char} (negative : Bool) (h : WholeDigits whole)
    (rest : List Char) :
    scalar? ((if negative then '-' :: whole else whole) ++ rest) =
      unsigned? negative (whole ++ rest) := by
  obtain ⟨c, more, rfl⟩ := List.exists_cons_of_ne_nil h.ne_nil
  have hc := h.isDigit c List.mem_cons_self
  cases negative with
  | true => exact scalar?_of_minus hc _
  | false => exact scalar?_of_isDigit hc _

theorem toList_toString_int (value : Int) :
    (toString value).toList =
      if value < 0 then '-' :: Nat.toDigits 10 value.natAbs else Nat.toDigits 10 value.natAbs := by
  cases value with
  | ofNat n => simp [Int.toString_eq_repr, Int.repr, Nat.repr_eq_ofList_toDigits]
  | negSucc n =>
    simp [Int.toString_eq_repr, Int.repr, Nat.repr_eq_ofList_toDigits, Int.negSucc_lt_zero]

/-- **The text of an integer is read as this integer.** -/
theorem scalar?_int (value : Int) {rest : List Char} (hrest : Ends rest) :
    scalar? ((toString value).toList ++ rest) = some (.int value, rest) := by
  have hwhole := wholeDigits_toDigits value.natAbs
  have hread := unsigned?_append (decide (value < 0)) hwhole .nothing .nothing hrest.stops
  have hvalue : (if value < 0 then -(value.natAbs : Int) else value.natAbs) = value := by
    split <;> omega
  rw [toList_toString_int]
  have hscalar := scalar?_append (decide (value < 0)) hwhole rest
  simp only [decide_eq_true_eq] at hscalar hread
  rw [hscalar]
  simpa only [List.nil_append, natOfDigits_toDigits, hvalue, and_self, if_true] using hread

/-- **A numeral is read as it is written.** -/
theorem scalar?_numeral {numeral : String} (h : IsNumeral numeral) {rest : List Char}
    (hrest : Ends rest) : scalar? (numeral.toList ++ rest) = some (.real numeral, rest) := by
  cases h with
  | notANumber => rfl
  | infinity => rfl
  | negativeInfinity => rfl
  | @decimal whole fraction exponent negative hwhole hfraction hexponent hreal =>
    have hread := unsigned?_append negative hwhole hfraction hexponent.standard hrest.stops
    rw [if_neg hreal] at hread
    rw [← hread, ← scalar?_append negative hwhole]
    cases negative <;> simp

end HeaderIndex.Json
