import HeaderIndex.Json.Printer
import HeaderIndex.Json.Reader
import Mathlib.Tactic.SplitIfs

/-!
# Texts in JSON and back

* `hexValue?_digitChar`, `unit?_hexDigits` — the digits of a code unit are read as this unit.
* `unitChar_pair` — a surrogate pair is read as the character that it stands for.
* `chars?_escapeChar` — an escaped character is read as this character.
* `chars?_flatMap` — an escaped text with a closing quote is read as this text.
-/

namespace HeaderIndex.Json

/-! ## Code units -/

theorem hexValue?_digitChar : ∀ d < 16, hexValue? (Nat.digitChar d) = some d := by decide

theorem unit?_hexDigits {unit : Nat} (h : unit < 0x10000) (rest : List Char) :
    unit? (Text.hexDigits 4 unit ++ rest) = some (unit, rest) := by
  have hdigit : ∀ n : Nat, hexValue? (Nat.digitChar (n % 16)) = some (n % 16) :=
    fun n => hexValue?_digitChar _ (Nat.mod_lt n (by decide))
  have hsum : ((unit / 16 / 16 / 16 % 16 * 16 + unit / 16 / 16 % 16) * 16 + unit / 16 % 16) * 16 +
      unit % 16 = unit := by
    omega
  simp only [Text.hexDigits, List.nil_append, List.cons_append, unit?, hdigit, Option.bind_eq_bind,
    Option.bind_some, Option.pure_def, hsum]

theorem toNat_valid (c : Char) : c.toNat < 0xd800 ∨ 0xdfff < c.toNat ∧ c.toNat < 0x110000 := c.valid

/-- A code unit outside the range of surrogates is a character of its own. -/
theorem unitChar_of_char {c : Char} (h : c.toNat < 0x10000) (rest : List Char) :
    unitChar c.toNat rest = (c, rest) := by
  have hvalid := toNat_valid c
  unfold unitChar
  rw [if_neg (by omega), if_neg (by omega), Char.ofNat_toNat]

theorem unitChar_unitEscape {high low : Nat} (hhigh : 0xd800 ≤ high ∧ high < 0xdc00)
    (hlow : 0xdc00 ≤ low ∧ low < 0xe000) (rest : List Char) :
    unitChar high (unitEscape low ++ rest) =
      (Char.ofNat (0x10000 + (high - 0xd800) * 0x400 + (low - 0xdc00)), rest) := by
  unfold unitChar
  rw [if_pos hhigh]
  simp only [unitEscape, List.cons_append]
  rw [unit?_hexDigits (by omega)]
  exact if_pos hlow

/-- The two halves of a character beyond the basic plane are read as this character. -/
theorem unitChar_pair {c : Char} (h : 0x10000 ≤ c.toNat) (rest : List Char) :
    unitChar (0xd800 + (c.toNat - 0x10000) / 0x400)
      (unitEscape (0xdc00 + (c.toNat - 0x10000) % 0x400) ++ rest) = (c, rest) := by
  have hvalid := toNat_valid c
  rw [unitChar_unitEscape (by omega) (by omega)]
  refine Prod.ext ?_ rfl
  rw [show 0x10000 + (0xd800 + (c.toNat - 0x10000) / 0x400 - 0xd800) * 0x400 +
    (0xdc00 + (c.toNat - 0x10000) % 0x400 - 0xdc00) = c.toNat by omega, Char.ofNat_toNat]

/-! ## Characters and texts -/

/-- An escape is read as what it stands for. -/
theorem chars?_escape {text rest : List Char} {c : Char} (h : escaped? text = some (c, rest))
    (fuel : Nat) : chars? (fuel + 1) ('\\' :: text) =
      (chars? fuel rest).map fun (more, after) => (c :: more, after) := by
  rw [chars?, if_neg (by decide), if_pos rfl, h]
  simp only [Option.bind_eq_bind, Option.bind_some]
  cases chars? fuel rest <;> rfl

theorem escaped?_unitEscape {unit : Nat} (h : unit < 0x10000) (rest : List Char) :
    escaped? ('u' :: (Text.hexDigits 4 unit ++ rest)) = some (unitChar unit rest) := by
  rw [escaped?, unit?_hexDigits h]
  rfl

/-- What stands for a character between quotes is read as this character. -/
theorem chars?_escapeChar (fuel : Nat) (c : Char) (rest : List Char) :
    chars? (fuel + 1) (escapeChar c ++ rest) =
      (chars? fuel rest).map fun (more, after) => (c :: more, after) := by
  have hvalid := toNat_valid c
  unfold escapeChar
  split_ifs with hquote hbackslash hnewLine hreturn htab hbackspace hfeed hprintable hplane
  · subst hquote
    exact chars?_escape rfl fuel
  · subst hbackslash
    exact chars?_escape rfl fuel
  · subst hnewLine
    exact chars?_escape rfl fuel
  · subst hreturn
    exact chars?_escape rfl fuel
  · subst htab
    exact chars?_escape rfl fuel
  · obtain rfl : c = '\x08' := Char.toNat_inj.1 hbackspace
    exact chars?_escape rfl fuel
  · obtain rfl : c = '\x0c' := Char.toNat_inj.1 hfeed
    exact chars?_escape rfl fuel
  · -- a character that needs no escape is read as it stands
    rw [List.singleton_append, chars?, if_neg hquote, if_neg hbackslash, if_neg (by omega)]
    cases chars? fuel rest <;> rfl
  · refine chars?_escape ((escaped?_unitEscape hplane rest).trans ?_) fuel
    rw [unitChar_of_char hplane]
  · rw [List.append_assoc]
    refine chars?_escape ((escaped?_unitEscape (by omega) _).trans ?_) fuel
    rw [unitChar_pair (by omega)]

/-- **An escaped text is read as this text**, up to the quote behind it. -/
theorem chars?_flatMap (cs : List Char) {fuel : Nat} (h : cs.length < fuel) (rest : List Char) :
    chars? fuel (cs.flatMap escapeChar ++ '"' :: rest) = some (cs, rest) := by
  induction cs generalizing fuel with
  | nil =>
    obtain ⟨fuel, rfl⟩ := Nat.exists_eq_add_one.2 h
    rfl
  | cons c cs ih =>
    obtain ⟨fuel, rfl⟩ := Nat.exists_eq_add_one.2 (Nat.zero_lt_of_lt h)
    rw [List.flatMap_cons, List.append_assoc, chars?_escapeChar,
      ih (Nat.lt_of_succ_lt_succ h)]
    rfl

end HeaderIndex.Json
