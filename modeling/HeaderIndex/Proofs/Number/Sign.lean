import HeaderIndex.Number.Text
import Mathlib.Tactic

/-!
# The sign of a float

* `abs_of_nonnegative`, `neg_abs_of_negative` — a finite float is its magnitude, with a sign in
  front of it if it is negative.
* `isFinite_abs` — the magnitude is finite as well.

The bits of a float are a sign, an exponent and a mantissa.  Taking the magnitude and changing the
sign replace the first of them and keep the others.
-/

namespace HeaderIndex

open Float.Model Float.Model.UnpackedFloat

/-! ## The parts of a float -/

/-- A mantissa behind its leading one. -/
theorem toNat_one_append (mantissa : BitVec 52) :
    (1#1 ++ mantissa).toNat = 2 ^ 52 + mantissa.toNat := by
  rw [BitVec.toNat_append, ← Nat.shiftLeft_add_eq_or_of_lt mantissa.isLt]
  rfl

/-- The float with a sign, an exponent and a mantissa. -/
def ofParts (sign : Sign) (exponent : BitVec 11) (mantissa : BitVec 52) : UnpackedFloat :=
  if exponent = -1#11 then
    if mantissa = 0#52 then .infinity sign else .notANumber
  else if exponent = 0#11 then
    if h : mantissa = 0#52 then .zero sign
    else .finite sign mantissa.toNat (exponent.toNat - 1075 + 1)
      (by simpa [BitVec.toNat_pos, BitVec.pos_iff_ne_zero])
  else .finite sign (1#1 ++ mantissa).toNat (exponent.toNat - 1075)
    (by rw [toNat_one_append]; omega)

section Parts

variable (exponent : BitVec 11) (mantissa : BitVec 52)

/-- An exponent of ones has no finite float; any other has only finite ones. -/
theorem ofParts_cases :
    (exponent = -1#11 ∧
      ((∀ sign, ofParts sign exponent mantissa = .infinity sign) ∨
        ∀ sign, ofParts sign exponent mantissa = .notANumber)) ∨
    (exponent ≠ -1#11 ∧
      ((∀ sign, ofParts sign exponent mantissa = .zero sign) ∨
        ∃ m e pos, ∀ sign, ofParts sign exponent mantissa = .finite sign m e pos)) := by
  unfold ofParts
  by_cases hinf : exponent = -1#11
  · refine .inl ⟨hinf, ?_⟩
    by_cases hm : mantissa = 0#52
    · exact .inl fun sign => by rw [if_pos hinf, if_pos hm]
    · exact .inr fun sign => by rw [if_pos hinf, if_neg hm]
  · refine .inr ⟨hinf, ?_⟩
    by_cases hzero : exponent = 0#11
    · by_cases hm : mantissa = 0#52
      · exact .inl fun sign => by rw [if_neg hinf, if_pos hzero, dif_pos hm]
      · exact .inr ⟨_, _, _, fun sign => by rw [if_neg hinf, if_pos hzero, dif_neg hm]⟩
    · exact .inr ⟨_, _, _, fun sign => by rw [if_neg hinf, if_neg hzero]⟩

theorem abs_ofParts (sign : Sign) :
    (ofParts sign exponent mantissa).abs = ofParts .positive exponent mantissa := by
  obtain ⟨-, h | h⟩ | ⟨-, h | ⟨m, e, pos, h⟩⟩ := ofParts_cases exponent mantissa
  all_goals
    rw [h, h]
    rfl

theorem neg_ofParts (sign : Sign) :
    (ofParts sign exponent mantissa).neg = ofParts (-sign) exponent mantissa := by
  obtain ⟨-, h | h⟩ | ⟨-, h | ⟨m, e, pos, h⟩⟩ := ofParts_cases exponent mantissa
  all_goals
    rw [h, h]
    rfl

theorem isFinite_ofParts_iff (sign : Sign) :
    (ofParts sign exponent mantissa).isFinite = true ↔ exponent ≠ -1#11 := by
  obtain ⟨hinf, h⟩ | ⟨hinf, h⟩ := ofParts_cases exponent mantissa
  · obtain h | h := h
    all_goals
      rw [h]
      exact ⟨fun hf => (Bool.false_ne_true hf).elim, fun hne => (hne hinf).elim⟩
  · obtain h | ⟨m, e, pos, h⟩ := h
    all_goals
      rw [h]
      exact ⟨fun _ => hinf, fun _ => rfl⟩

end Parts

/-! ## Packing -/

/-- A float that is too small for a leading one keeps its mantissa. -/
theorem pack_subnormal (sign : Sign) (mantissa : BitVec 52) (pos : 0 < mantissa.toNat) :
    UnpackedFloat.pack Format.binary64 (.finite sign mantissa.toNat (-1074) pos) =
      packComponents Format.binary64 sign 0#11 mantissa := by
  have hlog : mantissa.toNat.log2 < 52 := (Nat.log2_lt (by omega)).2 mantissa.isLt
  have hbits : Format.binary64.mantissaBits = 53 := rfl
  unfold UnpackedFloat.pack
  dsimp only
  rw [if_neg (by decide), if_neg (by omega), BitVec.ofNat_toNat, BitVec.setWidth_eq]

/-- A float with a leading one keeps its exponent and what follows the one. -/
theorem pack_normal (sign : Sign) (exponent : BitVec 11) (mantissa : BitVec 52)
    (hinf : exponent ≠ -1#11) (pos : 0 < (1#1 ++ mantissa).toNat) :
    UnpackedFloat.pack Format.binary64
        (.finite sign (1#1 ++ mantissa).toNat (exponent.toNat - 1075) pos) =
      packComponents Format.binary64 sign exponent mantissa := by
  have hm := toNat_one_append mantissa
  have hlt := mantissa.isLt
  have hlog : (1#1 ++ mantissa).toNat.log2 = 52 := by
    rw [Nat.log2_eq_iff (by omega)]
    omega
  have hbits : Format.binary64.mantissaBits = 53 := rfl
  have hbiased : ((exponent.toNat : Int) - 1075 + (Format.binary64.exponentBias : Int) +
      (Format.binary64.mantissaBitsWithoutImplicit : Int)).toNat = exponent.toNat := by
    have hbias : (Format.binary64.exponentBias : Int) = 1023 := rfl
    have hwidth : (Format.binary64.mantissaBitsWithoutImplicit : Int) = 52 := rfl
    omega
  have hexponent : exponent.toNat + 1 < 2 ^ 11 := by
    have hne : exponent.toNat ≠ 2 ^ 11 - 1 := fun h => hinf (BitVec.eq_of_toNat_eq h)
    have := exponent.isLt
    omega
  have hmod : BitVec.ofNat 52 (1#1 ++ mantissa).toNat = mantissa := by
    apply BitVec.eq_of_toNat_eq
    rw [BitVec.toNat_ofNat, hm]
    omega
  unfold UnpackedFloat.pack
  dsimp only
  rw [hbiased, if_neg (by omega), if_pos (by omega), BitVec.ofNat_toNat, BitVec.setWidth_eq]
  exact congrArg _ hmod

theorem pack_ofParts (sign : Sign) {exponent : BitVec 11} (hinf : exponent ≠ -1#11)
    (mantissa : BitVec 52) :
    UnpackedFloat.pack Format.binary64 (ofParts sign exponent mantissa) =
      packComponents Format.binary64 sign exponent mantissa := by
  unfold ofParts
  rw [if_neg hinf]
  by_cases hzero : exponent = 0#11
  · subst hzero
    rw [if_pos rfl]
    by_cases hm : mantissa = 0#52
    · subst hm
      rw [dif_pos rfl]
      rfl
    · rw [dif_neg hm]
      exact pack_subnormal sign mantissa _
  · rw [if_neg hzero]
    exact pack_normal sign exponent mantissa hinf _

theorem unpack_eq_ofParts (b : BitVec Format.binary64.numBits) :
    UnpackedFloat.unpack Format.binary64 b =
      ofParts (.ofBitVec (unpackSign b)) (unpackExponent b) (unpackMantissa b) := rfl

theorem unpackSign_packComponents (sign : Sign) (exponent : BitVec 11) (mantissa : BitVec 52) :
    Sign.ofBitVec (unpackSign (packComponents Format.binary64 sign exponent mantissa)) = sign := by
  have hbits : unpackSign (packComponents Format.binary64 sign exponent mantissa) =
      sign.toBitVec := by
    unfold packComponents unpackSign
    ext i hi
    grind
  rw [hbits]
  cases sign <;> rfl

theorem unpack_packComponents (sign : Sign) (exponent : BitVec 11) (mantissa : BitVec 52) :
    UnpackedFloat.unpack Format.binary64 (packComponents Format.binary64 sign exponent mantissa) =
      ofParts sign exponent mantissa := by
  rw [unpack_eq_ofParts, unpackSign_packComponents, unpackExponent_packComponents,
    unpackMantissa_packComponents]

/-- The sign, the exponent and the mantissa are all the bits. -/
theorem packComponents_unpacked {b : BitVec Format.binary64.numBits} {sign : Sign}
    (h : unpackSign b = sign.toBitVec) :
    packComponents Format.binary64 sign (unpackExponent b) (unpackMantissa b) = b := by
  unfold packComponents
  rw [← h]
  unfold unpackSign unpackExponent unpackMantissa
  ext i hi
  grind

/-! ## Signs of floats -/

/-- The bits of a float. -/
def bitsOf (f : Float) : BitVec Format.binary64.numBits := f.toBits.toBitVec

theorem eq_of_bitsOf {f g : Float} (h : bitsOf f = bitsOf g) : f = g := by
  obtain ⟨⟨⟨b⟩, hf⟩⟩ := f
  obtain ⟨⟨⟨c⟩, hg⟩⟩ := g
  obtain rfl : b = c := h
  rfl

theorem isNegativeFloat_iff (f : Float) :
    isNegativeFloat f = true ↔ unpackSign (bitsOf f) = Sign.negative.toBitVec := by
  have hmsb : unpackSign (bitsOf f) = BitVec.ofBool (bitsOf f).msb := by
    unfold unpackSign BitVec.msb
    ext i hi
    grind
  have hle : isNegativeFloat f = true ↔ (bitsOf f).msb = true := by
    rw [BitVec.msb_eq_decide]
    simp [isNegativeFloat, bitsOf]
  rw [hle, hmsb]
  cases (bitsOf f).msb <;> decide

theorem unpackSign_of_nonnegative {f : Float} (h : isNegativeFloat f = false) :
    unpackSign (bitsOf f) = Sign.positive.toBitVec := by
  have hne : unpackSign (bitsOf f) ≠ 1#1 := fun hs => by
    simp [(isNegativeFloat_iff f).2 hs] at h
  exact (BitVec.eq_zero_or_eq_one _).resolve_right hne

theorem exponent_of_finite {f : Float} (h : f.isFinite = true) :
    unpackExponent (bitsOf f) ≠ -1#11 :=
  (isFinite_ofParts_iff _ _ _).1 h

/-- What is not finite is no number or infinite. -/
theorem isFinite_iff (f : Float) : f.isFinite = true ↔ f.isNaN = false ∧ f.isInf = false := by
  show (unpack Format.binary64 (bitsOf f)).isFinite = true ↔
    (unpack Format.binary64 (bitsOf f)).isNaN = false ∧
      (unpack Format.binary64 (bitsOf f)).isInf = false
  cases unpack Format.binary64 (bitsOf f) with
  | zero => exact ⟨fun _ => ⟨rfl, rfl⟩, fun _ => rfl⟩
  | finite => exact ⟨fun _ => ⟨rfl, rfl⟩, fun _ => rfl⟩
  | infinity =>
    exact ⟨fun h => (Bool.false_ne_true h).elim, fun h => (Bool.false_ne_true h.2.symm).elim⟩
  | notANumber =>
    exact ⟨fun h => (Bool.false_ne_true h).elim, fun h => (Bool.false_ne_true h.1.symm).elim⟩

/-- A finite float is a number. -/
theorem isNaN_of_finite {f : Float} (h : f.isFinite = true) : f.isNaN = false :=
  ((isFinite_iff f).1 h).1

/-- The bits of a magnitude are those of the float with the sign of positive floats. -/
theorem bitsOf_abs {f : Float} (h : f.isFinite = true) :
    bitsOf f.abs = packComponents Format.binary64 .positive (unpackExponent (bitsOf f))
      (unpackMantissa (bitsOf f)) := by
  show UnpackedFloat.pack Format.binary64
    (UnpackedFloat.unpack Format.binary64 (bitsOf f)).abs = _
  rw [unpack_eq_ofParts, abs_ofParts]
  exact pack_ofParts _ (exponent_of_finite h) _

/-- The magnitude of a finite float is finite. -/
theorem isFinite_abs {f : Float} (h : f.isFinite = true) : f.abs.isFinite = true := by
  show (UnpackedFloat.unpack Format.binary64 (bitsOf f.abs)).isFinite = true
  rw [bitsOf_abs h, unpack_packComponents]
  exact (isFinite_ofParts_iff _ _ _).2 (exponent_of_finite h)

/-- A finite float without a sign is its own magnitude. -/
theorem abs_of_nonnegative {f : Float} (hf : f.isFinite = true) (h : isNegativeFloat f = false) :
    f.abs = f := by
  apply eq_of_bitsOf
  rw [bitsOf_abs hf]
  exact packComponents_unpacked (unpackSign_of_nonnegative h)

/-- A finite float with a sign is its magnitude with a sign in front. -/
theorem neg_abs_of_negative {f : Float} (hf : f.isFinite = true) (h : isNegativeFloat f = true) :
    -f.abs = f := by
  apply eq_of_bitsOf
  show UnpackedFloat.pack Format.binary64
    (UnpackedFloat.unpack Format.binary64 (bitsOf f.abs)).neg = bitsOf f
  rw [bitsOf_abs hf, unpack_packComponents, neg_ofParts]
  exact (pack_ofParts _ (exponent_of_finite hf) _).trans
    (packComponents_unpacked ((isNegativeFloat_iff f).1 h))

end HeaderIndex
