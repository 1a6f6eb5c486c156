import Mathlib.Algebra.Group.Nat.Defs
import CreatureNaming.Number.Binary64

/-! Integers of 64 bits, and integers that are cut off at their limits. -/

set_option autoImplicit false

namespace CreatureNaming.Binary64

variable {value : Int}

/-- An integer that 64 bits hold. -/
def IsInt64 (value : Int) : Prop := minInt64 ≤ value ∧ value ≤ maxInt64

instance (value : Int) : Decidable (IsInt64 value) := inferInstanceAs (Decidable (_ ∧ _))

theorem isInt64_clampInt64 (value : Int) : IsInt64 (clampInt64 value) := by
  unfold IsInt64 clampInt64 minInt64 maxInt64
  omega

/-- The integers of 64 bits are the ones that are not changed at the limits. -/
theorem clampInt64_eq_self_iff : clampInt64 value = value ↔ IsInt64 value := by
  unfold IsInt64 clampInt64 minInt64 maxInt64
  omega

/-- The integer part of any number is one of 64 bits. -/
theorem isInt64_truncate (value : Binary64) : IsInt64 value.truncate := by
  cases value with
  | nan => decide
  | infinite negative => cases negative <;> decide
  | finite negative magnitude => exact isInt64_clampInt64 _

/-- Beyond the limits, integers of one sign are cut off to the same one. -/
theorem clampInt64_signed {negative : Bool} {first second : Nat}
    (beyond : ¬IsInt64 (signed negative second)) (reaches : 2 ^ 63 ≤ second → 2 ^ 63 ≤ first) :
    clampInt64 (signed negative first) = clampInt64 (signed negative second) := by
  unfold IsInt64 at beyond
  unfold clampInt64
  unfold minInt64 maxInt64 at *
  cases negative with
  | false =>
    rw [signed, if_neg Bool.false_ne_true] at beyond ⊢
    rw [signed, if_neg Bool.false_ne_true]
    omega
  | true =>
    rw [signed, if_pos rfl] at beyond ⊢
    rw [signed, if_pos rfl]
    omega

end CreatureNaming.Binary64
