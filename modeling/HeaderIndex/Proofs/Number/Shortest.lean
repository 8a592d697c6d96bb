import HeaderIndex.Number.Shortest
import Mathlib.Algebra.Order.Ring.Nat

/-!
# The digits of the shortest decimal

* `lt_tenTo_digitCount`, `tenTo_le_of_pos` — a number lies between two powers of ten with as many
  digits as it has.
* `leadingExponent_spec` — a quotient is at least the power of ten of its first digit.
* `shortest_digits` — the shortest decimal of a float that is not zero has a digit other than zero,
  unless none was found.
* `decimal_cases` — the decimals of all floats.
-/

namespace HeaderIndex.Shortest

theorem tenTo_pos (n : Nat) : 0 < tenTo n := Nat.pow_pos (by decide)

theorem tenTo_le {m n : Nat} (h : m ≤ n) : tenTo m ≤ tenTo n := Nat.pow_le_pow_right (by decide) h

/-! ## Digits and powers of ten -/

theorem digitCount_pos (n : Nat) : 0 < digitCount n := Nat.length_toDigits_pos

theorem digitCount_le_iff {n k : Nat} (hk : 0 < k) : digitCount n ≤ k ↔ n < tenTo k :=
  Nat.length_toDigits_le_iff (by decide) hk

theorem lt_tenTo_digitCount (n : Nat) : n < tenTo (digitCount n) :=
  (digitCount_le_iff (digitCount_pos n)).1 (Nat.le_refl _)

theorem tenTo_le_of_pos {n : Nat} (h : 0 < n) : tenTo (digitCount n - 1) ≤ n := by
  have hpos := digitCount_pos n
  by_contra hlt
  rcases Nat.eq_zero_or_pos (digitCount n - 1) with hzero | hk
  · rw [hzero] at hlt
    exact hlt h
  · have hle := (digitCount_le_iff hk).2 (Nat.lt_of_not_le hlt)
    omega

/-- Whether a quotient is at least a power of ten. -/
def AtLeast (numerator denominator : Nat) (exponent : Int) : Prop :=
  denominator * tenTo exponent.toNat ≤ numerator * tenTo (-exponent).toNat

theorem AtLeast.mono {numerator denominator : Nat} {high low : Int}
    (h : AtLeast numerator denominator high) (hle : low ≤ high) :
    AtLeast numerator denominator low :=
  calc denominator * tenTo low.toNat
      ≤ denominator * tenTo high.toNat := Nat.mul_le_mul_left _ (tenTo_le (by omega))
    _ ≤ numerator * tenTo (-high).toNat := h
    _ ≤ numerator * tenTo (-low).toNat := Nat.mul_le_mul_left _ (tenTo_le (by omega))

/-- **A quotient is at least the power of ten of its first digit.** -/
theorem leadingExponent_spec {numerator denominator : Nat} (hnumerator : 0 < numerator)
    (hdenominator : 0 < denominator) :
    AtLeast numerator denominator (leadingExponent numerator denominator) := by
  unfold leadingExponent
  split
  · rename_i hle
    have hquotient : 0 < numerator / denominator := Nat.div_pos hle hdenominator
    have hcount := digitCount_pos (numerator / denominator)
    have hpower : ((digitCount (numerator / denominator) : Int) - 1).toNat =
        digitCount (numerator / denominator) - 1 := by omega
    have hzero : (-((digitCount (numerator / denominator) : Int) - 1)).toNat = 0 := by omega
    rw [AtLeast, hpower, hzero]
    calc denominator * tenTo (digitCount (numerator / denominator) - 1)
        ≤ denominator * (numerator / denominator) := Nat.mul_le_mul_left _ (tenTo_le_of_pos hquotient)
      _ ≤ numerator := Nat.mul_div_le _ _
      _ = numerator * tenTo 0 := (Nat.mul_one _).symm
  · rename_i hlt
    dsimp only
    generalize hshift : digitCount denominator - digitCount numerator = shift
    split
    · rename_i hle
      have hzero : (-(shift : Int)).toNat = 0 := by omega
      have hpower : (-(-(shift : Int))).toNat = shift := by omega
      rw [AtLeast, hzero, hpower]
      exact (Nat.mul_one _).le.trans hle
    · -- one place further down the numerator has as many digits as the denominator
      have hzero : (-((shift : Int) + 1)).toNat = 0 := by omega
      have hpower : (-(-((shift : Int) + 1))).toNat = shift + 1 := by omega
      have hcount := digitCount_pos numerator
      rw [AtLeast, hzero, hpower]
      calc denominator * tenTo 0 = denominator := Nat.mul_one _
        _ ≤ tenTo (digitCount denominator) := (lt_tenTo_digitCount _).le
        _ ≤ tenTo (digitCount numerator - 1 + (shift + 1)) := tenTo_le (by omega)
        _ = tenTo (digitCount numerator - 1) * tenTo (shift + 1) := Nat.pow_add _ _ _
        _ ≤ numerator * tenTo (shift + 1) := Nat.mul_le_mul_right _ (tenTo_le_of_pos hnumerator)

/-! ## The decimal that is found -/

/-- The nearest decimal is one of the two neighbours of the value. -/
theorem nearest?_eq_some {i : Interval} {place : Int} {digits : Nat}
    (h : i.nearest? place = some digits) :
    digits = i.value * tenTo (-place).toNat / (i.denominator * tenTo place.toNat) ∨
      digits = i.value * tenTo (-place).toNat / (i.denominator * tenTo place.toNat) + 1 := by
  unfold Interval.nearest? at h
  grind

/-- A decimal whose last place is not above the first digit of the value is not zero. -/
theorem nearest?_ne_zero {i : Interval} {place : Int} {digits : Nat} (hdenominator : 0 < i.denominator)
    (hplace : AtLeast i.value i.denominator place) (h : i.nearest? place = some digits) :
    digits ≠ 0 := by
  have hfloor : 0 < i.value * tenTo (-place).toNat / (i.denominator * tenTo place.toNat) :=
    Nat.div_pos hplace (Nat.mul_pos hdenominator (tenTo_pos _))
  rcases nearest?_eq_some h with heq | heq <;> omega

theorem shortest_digits {i : Interval} (hvalue : 0 < i.value) (hdenominator : 0 < i.denominator) :
    i.shortest.digits ≠ 0 ∨ i.shortest = ⟨0, 0⟩ := by
  unfold Interval.shortest
  dsimp only
  cases hfound : (List.range 17).findSome? _ with
  | none => exact .inr rfl
  | some found =>
    obtain ⟨more, _, hmore⟩ := List.exists_of_findSome?_eq_some hfound
    obtain ⟨digits, hdigits, rfl⟩ := Option.map_eq_some_iff.1 hmore
    have hplace := (leadingExponent_spec hvalue hdenominator).mono
      (show leadingExponent i.value i.denominator - (more : Int) ≤ _ by omega)
    exact .inl (nearest?_ne_zero hdenominator hplace hdigits)

theorem shortest_zero : (Binary.interval ⟨0, -1074, false⟩).shortest = ⟨0, -324⟩ := by
  decide +kernel

/-- **The decimal of a float** has a digit other than zero, or is one of two forms of zero. -/
theorem decimal_cases (value : Float) :
    (decimal value).digits ≠ 0 ∨ decimal value = ⟨0, 0⟩ ∨ decimal value = ⟨0, -324⟩ := by
  have hpositive : ∀ b : Binary, 0 < b.significand →
      b.interval.shortest.digits ≠ 0 ∨ b.interval.shortest = ⟨0, 0⟩ := fun b hb =>
    shortest_digits (Nat.mul_pos (Nat.mul_pos (by decide) hb) (Nat.pow_pos (by decide)))
      (Nat.pow_pos (by decide))
  unfold decimal Binary.ofFloat
  dsimp only
  split
  · rcases Nat.eq_zero_or_pos (value.toBits.toNat % twoTo 52) with hzero | hpos
    · rw [hzero]
      exact .inr (.inr shortest_zero)
    · exact (hpositive ⟨_, -1074, false⟩ hpos).imp_right .inl
  · refine (hpositive ⟨twoTo 52 + _, _, _⟩ ?_).imp_right .inl
    exact Nat.add_pos_left (Nat.pow_pos (by decide)) _

end HeaderIndex.Shortest
