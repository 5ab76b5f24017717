/-!
# Letters and digits

The digits and the capital letters of ASCII by their numbers. Lower case moves a capital letter 32 numbers on and
leaves every other character (`toNat_toLower`).
-/

set_option autoImplicit false

namespace Rowgraph

theorem isDigit_iff {a : Char} : a.isDigit = true ↔ 48 ≤ a.toNat ∧ a.toNat ≤ 57 := by
  rw [Char.isDigit, Bool.and_eq_true, decide_eq_true_eq, decide_eq_true_eq, ge_iff_le, UInt32.le_iff_toNat_le,
    UInt32.le_iff_toNat_le]
  rfl

theorem isUpper_iff_val {a : Char} : a.isUpper = true ↔ a.val ≥ 'A'.val ∧ a.val ≤ 'Z'.val :=
  decide_eq_true_iff

theorem isUpper_iff {a : Char} : a.isUpper = true ↔ 65 ≤ a.toNat ∧ a.toNat ≤ 90 := by
  rw [isUpper_iff_val, ge_iff_le, UInt32.le_iff_toNat_le, UInt32.le_iff_toNat_le]
  rfl

theorem toNat_toLower (a : Char) : a.toLower.toNat = if a.isUpper then a.toNat + 32 else a.toNat := by
  delta Char.toLower
  by_cases h : a.isUpper = true
  · have hbounds := isUpper_iff.1 h
    have hval : a.val.toNat = a.toNat := rfl
    rw [if_pos h, dif_pos (isUpper_iff_val.1 h)]
    change (a.val + 32).toNat = a.toNat + 32
    rw [UInt32.toNat_add, hval]
    exact Nat.mod_eq_of_lt (by simp; omega)
  · rw [if_neg h, dif_neg fun hval => h (isUpper_iff_val.2 hval)]

end Rowgraph
