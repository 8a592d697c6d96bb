import HeaderIndex.Number.Text
import HeaderIndex.Proofs.Json.Numeral
import HeaderIndex.Proofs.Number.Shortest
import Mathlib.Data.List.DropRight

/-!
# Floats as numbers of JSON

* `Magnitude` — a text is that of a number without a sign, with a point or an exponent.
* `magnitude_positional`, `magnitude_withExponent` — both ways to write digits give such a text.
* `magnitude_text` — so does the magnitude of a finite float.
* `isNumeral_dump` — so the text of a float in a dump is a numeral.
-/

namespace HeaderIndex

open Json

/-- Whether a text is that of a number without a sign, with a point or an exponent. -/
def Magnitude (text : List Char) : Prop :=
  ∃ whole fraction exponent, WholeDigits whole ∧ IsFraction fraction ∧ IsExponent exponent ∧
    ¬ (fraction = [] ∧ exponent = []) ∧ text = whole ++ fraction ++ exponent

/-- Digits of which the first one is no zero. -/
structure Leading (ds : List Char) : Prop extends Digits ds where
  head : ds.head? ≠ some '0'

theorem Leading.whole {ds : List Char} (h : Leading ds) : WholeDigits ds :=
  ⟨h.toDigits, fun hzero => absurd hzero h.head⟩

theorem digits_zero : Digits ['0'] := ⟨List.cons_ne_nil _ _, List.forall_mem_singleton.2 rfl⟩

theorem wholeDigits_zero : WholeDigits ['0'] := ⟨digits_zero, fun _ => rfl⟩

/-! ## Ways to write digits -/

theorem magnitude_positional {ds : List Char} (h : Leading ds) (exponent : Int) :
    Magnitude (positional ds exponent) := by
  have hzeros : ∀ n, ∀ c ∈ List.replicate n '0', c.isDigit = true := fun n c hc => by
    rw [List.eq_of_mem_replicate hc]
    rfl
  unfold positional
  split
  · refine ⟨['0'], '.' :: (List.replicate ((-exponent).toNat - 1) '0' ++ ds), [], wholeDigits_zero,
      .digits ⟨by simp [h.ne_nil], ?_⟩, .nothing, by simp, by simp⟩
    intro c hc
    rcases List.mem_append.1 hc with hc | hc
    · exact hzeros _ c hc
    · exact h.isDigit c hc
  · dsimp only
    obtain ⟨d, more, hds⟩ := List.exists_cons_of_ne_nil h.ne_nil
    have hpadded : ∀ c ∈ ds ++ List.replicate (exponent.toNat + 1 - ds.length) '0',
        c.isDigit = true := by
      intro c hc
      rcases List.mem_append.1 hc with hc | hc
      · exact h.isDigit c hc
      · exact hzeros _ c hc
    -- the first digit stays in front of the point
    have hhead : ((ds ++ List.replicate (exponent.toNat + 1 - ds.length) '0').take
        (exponent.toNat + 1)).head? = ds.head? := by
      rw [hds]
      rfl
    refine ⟨_, '.' :: _, [], ⟨⟨?_, fun c hc => hpadded c (List.mem_of_mem_take hc)⟩, fun hzero =>
      absurd (hhead.symm.trans hzero) h.head⟩, .digits ⟨?_, ?_⟩, .nothing, by simp,
      (List.append_nil _).symm⟩
    · rw [hds]
      exact List.cons_ne_nil _ _
    · split
      · exact List.cons_ne_nil _ _
      · assumption
    · split
      · exact fun c hc => (List.mem_singleton.1 hc) ▸ rfl
      · exact fun c hc => h.isDigit c (List.mem_of_mem_drop hc)

theorem isExponent_toDigits (exponent : Int) :
    IsExponent ('e' :: (if exponent < 0 then '-' else '+') ::
      (if (Nat.toDigits 10 exponent.natAbs).length < 2 then '0' :: Nat.toDigits 10 exponent.natAbs
        else Nat.toDigits 10 exponent.natAbs)) := by
  have hdigits := (wholeDigits_toDigits exponent.natAbs).toDigits
  refine .digits (by split <;> simp) ?_
  split
  · refine ⟨List.cons_ne_nil _ _, fun c hc => ?_⟩
    rcases List.mem_cons.1 hc with rfl | hc
    · rfl
    · exact hdigits.isDigit c hc
  · exact hdigits

theorem magnitude_withExponent {ds : List Char} (h : ds = [] ∨ Leading ds) (exponent : Int) :
    Magnitude (withExponent ds exponent) := by
  have hexponent := isExponent_toDigits exponent
  unfold withExponent
  rcases h with rfl | h
  · exact ⟨['0'], [], _, wholeDigits_zero, .nothing, hexponent, by simp, rfl⟩
  · match ds, h with
    | [], h => exact absurd rfl h.ne_nil
    | [d], h => exact ⟨[d], [], _, h.whole, .nothing, hexponent, by simp, rfl⟩
    | d :: next :: more, h =>
      have hfirst : WholeDigits [d] :=
        ⟨⟨by simp, by simpa using h.isDigit d List.mem_cons_self⟩, fun hzero => by
          rw [Option.some.inj hzero]⟩
      have hmore : Digits (next :: more) :=
        ⟨by simp, fun c hc => h.isDigit c (List.mem_cons_of_mem _ hc)⟩
      exact ⟨[d], '.' :: next :: more, _, hfirst, .digits hmore, hexponent, by simp, rfl⟩

/-! ## Floats -/

/-- A decimal that is not zero has digits of which the first one is no zero. -/
theorem leading_scientific {d : Shortest.Decimal} (h : d.digits ≠ 0) : Leading d.scientific.1 := by
  have hwhole := wholeDigits_toDigits d.digits
  have hhead : (Nat.toDigits 10 d.digits).head? ≠ some '0' := fun hzero =>
    h (head?_toDigits hzero)
  have hstart : d.scientific.1 <+: Nat.toDigits 10 d.digits := List.rdropWhile_prefix ..
  have hne : d.scientific.1 ≠ [] := by
    intro hnil
    have hall := List.rdropWhile_eq_nil_iff.1
      (show (Nat.toDigits 10 d.digits).rdropWhile (· = '0') = [] from hnil)
    obtain ⟨c, more, heq⟩ := List.exists_cons_of_ne_nil hwhole.ne_nil
    have hc := hall c (by rw [heq]; exact List.mem_cons_self)
    exact hhead (by rw [heq]; simpa using hc)
  refine ⟨⟨hne, fun c hc => hwhole.isDigit c (hstart.subset hc)⟩, fun hzero => hhead ?_⟩
  obtain ⟨rest, hrest⟩ := hstart
  rw [← hrest, List.head?_append_of_ne_nil _ hne, hzero]

/-- The magnitude of a finite float has a point or an exponent. -/
theorem magnitude_text (value : Float) : Magnitude (FloatStyle.dump.magnitude value) := by
  unfold FloatStyle.magnitude
  split
  · exact ⟨['0'], ['.', '0'], [], wholeDigits_zero, .digits digits_zero, .nothing,
      by simp, rfl⟩
  rcases Shortest.decimal_cases value with h | h | h
  · have hleading := leading_scientific h
    dsimp only
    split
    · exact magnitude_withExponent (.inr hleading) _
    · exact magnitude_positional hleading _
  · rw [h]
    exact ⟨['0'], ['.', '0'], [], wholeDigits_zero, .digits digits_zero, .nothing,
      by simp, by decide⟩
  · rw [h]
    exact magnitude_withExponent (.inl rfl) (-324)

/-- **The text of a float in a dump is a numeral.** -/
theorem isNumeral_dump (value : Float) : IsNumeral (FloatStyle.dump.text value) := by
  unfold FloatStyle.text
  split
  · exact .notANumber
  dsimp only
  by_cases hinf : value.isInf = true
  · rw [if_pos hinf]
    cases isNegativeFloat value with
    | true => exact .negativeInfinity
    | false => exact .infinity
  · obtain ⟨whole, fraction, exponent, hwhole, hfraction, hexponent, hreal, htext⟩ :=
      magnitude_text value
    rw [if_neg hinf, htext]
    exact .decimal _ hwhole hfraction hexponent hreal

end HeaderIndex
