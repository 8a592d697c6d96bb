import HeaderIndex.Json.Printer
import HeaderIndex.Proofs.Json.Parts
import Mathlib.Data.Nat.Digits.Lemmas

/-!
# Values that can be written

* `isOverlong_iff` — the integers that are not written are those with too many digits.
* `Json.FewDigits`, `isPrintable_iff` — a value can be written exactly if no integer in it, at any
  depth, has too many.
-/

namespace HeaderIndex

theorem Numeral.isOverlong_iff (value : Int) :
    isOverlong value = true ↔ maxDecimalDigits < (Nat.toDigits 10 value.natAbs).length := by
  have hlength : (Nat.toDigits 10 value.natAbs).length ≤ maxDecimalDigits ↔
      value.natAbs < 10 ^ maxDecimalDigits :=
    Nat.length_toDigits_le_iff (by decide) (by decide)
  rw [← Nat.not_le, hlength, Nat.not_lt]
  simp only [isOverlong, Nat.pow_eq, decide_eq_true_eq]

namespace Json

/-- Whether a value that is an integer has few enough digits to be written. -/
def FewDigits : Json → Prop
  | .int value => (Nat.toDigits 10 value.natAbs).length ≤ Numeral.maxDecimalDigits
  | .null | .bool _ | .real _ | .str _ | .arr _ | .obj _ => True

theorem isPrintable_int_iff (value : Int) :
    (int value).isPrintable = true ↔ (int value).FewDigits := by
  rw [isPrintable, Bool.not_eq_true', ← Bool.not_eq_true, Numeral.isOverlong_iff, Nat.not_lt]
  rfl

mutual

/-- **A value can be written exactly if no integer in it has too many digits.** -/
theorem isPrintable_iff : ∀ json : Json, json.isPrintable = true ↔ json.Every FewDigits
  | .null => iff_of_true rfl (every_null trivial)
  | .bool _ => iff_of_true rfl (every_bool trivial)
  | .int value => (isPrintable_int_iff value).trans ⟨every_int, Every.self⟩
  | .real _ => iff_of_true rfl (every_real trivial)
  | .str _ => iff_of_true rfl (every_str trivial)
  | .arr items => by
    rw [isPrintable, arePrintable_iff items]
    exact ⟨every_arr trivial, fun h _ hitem => h.item hitem⟩
  | .obj members => by
    rw [isPrintable, membersPrintable_iff members]
    exact ⟨every_obj trivial, fun h _ hmember => h.member hmember⟩

theorem arePrintable_iff : ∀ items : List Json,
    arePrintable items = true ↔ ∀ item ∈ items, item.Every FewDigits
  | [] => iff_of_true rfl nofun
  | item :: more => by
    rw [arePrintable, Bool.and_eq_true, isPrintable_iff item, arePrintable_iff more,
      List.forall_mem_cons]

theorem membersPrintable_iff : ∀ members : List (String × Json),
    membersPrintable members = true ↔ ∀ member ∈ members, member.2.Every FewDigits
  | [] => iff_of_true rfl nofun
  | (_, value) :: more => by
    rw [membersPrintable, Bool.and_eq_true, isPrintable_iff value, membersPrintable_iff more,
      List.forall_mem_cons]

end

end Json

end HeaderIndex
