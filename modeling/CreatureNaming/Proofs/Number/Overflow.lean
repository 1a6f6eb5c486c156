import CreatureNaming.Proofs.Number.Nearest

/-! Integers beyond the largest number in double precision.

The largest number is `2^1024 - 2^971`. The integers that are rounded to it end half of its last
place above it: from `2^1024 - 2^970` on there is no nearest magnitude.
-/

set_option autoImplicit false

namespace CreatureNaming.Binary64

variable {numerator denominator number value : Nat} {magnitude : Magnitude}

/-- The least integer that is read as an infinite number. -/
def leastInfinite : Nat := (2 ^ 54 - 1) * 2 ^ 970

/-- What is at least half below an even integer is rounded to it, or to a larger one. -/
theorem even_le_roundEven_iff (even : value % 2 = 0) (nonzero : 0 < denominator) :
    value ≤ roundEven numerator denominator ↔
      2 * value * denominator ≤ 2 * numerator + denominator := by
  have split := Nat.div_add_mod numerator denominator
  have less := Nat.mod_lt numerator nonzero
  rw [roundEven]
  generalize numerator / denominator = quotient at split
  generalize numerator % denominator = part at split less
  subst split
  obtain below | rfl | above : value ≤ quotient ∨ value = quotient + 1 ∨ quotient + 2 ≤ value := by
    omega
  · have product := Nat.mul_le_mul_right denominator below
    refine iff_of_true ?_ (by linarith)
    split_ifs <;> omega
  · -- Between two integers, the half decides; at the half itself the even one is the upper one.
    have whole : 2 * (quotient + 1) * denominator = 2 * (denominator * quotient) + 2 * denominator := by
      ring
    rw [whole]
    split_ifs <;> omega
  · have product := Nat.mul_le_mul_right denominator above
    refine iff_of_false ?_ (by linarith)
    split_ifs <;> omega

theorem le_lastPlace_of_le {power : Nat} (least : 2 ^ power ≤ number) :
    (power : ℤ) - 52 ≤ lastPlace ((number : ℚ) / (1 : ℕ)) := by
  have positive : (0 : ℚ) < number := Nat.cast_pos.mpr (Nat.lt_of_lt_of_le (Nat.two_pow_pos _) least)
  have log : power ≤ Int.log 2 (number : ℚ) := by
    refine (Int.zpow_le_iff_le_log one_lt_two positive).mp ?_
    exact_mod_cast least
  rw [Nat.cast_one, div_one, lastPlace]
  omega

theorem lastPlace_le_of_lt {power : Nat} (positive : 0 < number) (less : number < 2 ^ (power + 54)) :
    lastPlace ((number : ℚ) / (1 : ℕ)) ≤ (power + 1 : ℕ) := by
  have log : Int.log 2 (number : ℚ) < (power + 54 : ℕ) := by
    refine (Int.lt_zpow_iff_log_lt one_lt_two (Nat.cast_pos.mpr positive)).mp ?_
    exact_mod_cast less
  rw [Nat.cast_one, div_one, lastPlace]
  omega

/-- An integer of `power + 54` bits is rounded to `2^53` of its last places from half of the last
place below `2^(power + 54)` on. -/
theorem lastPlaces_eq_iff {power : Nat} (positive : 0 < number)
    (place : lastPlace ((number : ℚ) / (1 : ℕ)) = (power + 1 : ℕ)) :
    lastPlaces number 1 = 2 * leastFull ↔ (2 ^ 54 - 1) * 2 ^ power ≤ number := by
  have most := lastPlaces_le positive Nat.one_pos
  have reaches : 2 * leastFull ≤ lastPlaces number 1 ↔ (2 ^ 54 - 1) * 2 ^ power ≤ number := by
    rw [lastPlaces, place, even_le_roundEven_iff rfl (by simp)]
    simp only [Int.toNat_natCast, Int.toNat_neg_natCast, Nat.pow_eq, Nat.pow_zero, Nat.mul_one,
      Nat.one_mul, Nat.pow_succ, leastFull]
    omega
  rw [← reaches]
  omega

theorem limit_bounds (power : Nat) :
    2 ^ (power + 53) ≤ (2 ^ 54 - 1) * 2 ^ power ∧ (2 ^ 54 - 1) * 2 ^ power ≤ 2 ^ (power + 54) := by
  rw [Nat.pow_add, Nat.pow_add]
  omega

theorem two_pow_lt_limit {lower power : Nat} (few : lower < power + 53) :
    2 ^ lower < (2 ^ 54 - 1) * 2 ^ power :=
  (Nat.pow_lt_pow_right one_lt_two few).trans_le (limit_bounds power).1

/-- A large integer has no nearest magnitude if its last place is above those of all magnitudes, or
comes to be when the integer is rounded. -/
theorem nearest?_large (positive : 0 < number)
    (place : 971 ≤ lastPlace ((number : ℚ) / (1 : ℕ))) :
    nearest? number 1 = none ↔
      971 < lastPlace ((number : ℚ) / (1 : ℕ)) ∨ lastPlaces number 1 = 2 * leastFull := by
  have full := leastFull_le_lastPlaces positive Nat.one_pos (by omega)
  have most := lastPlaces_le positive Nat.one_pos
  by_cases carried : lastPlaces number 1 = 2 * leastFull
  · rw [nearest?_carried positive Nat.one_pos carried, dite_eq_right_iff]
    simp only [reduceCtorEq, imp_false, Fits]
    omega
  · rw [nearest?_fitting positive Nat.one_pos carried, dite_eq_right_iff]
    simp only [reduceCtorEq, imp_false, Fits]
    omega

/-- Integers from the limit on have no nearest magnitude, and all others have one. -/
theorem nearest?_eq_none_iff (number : Nat) :
    nearest? number 1 = none ↔ leastInfinite ≤ number := by
  obtain ⟨low, high⟩ := limit_bounds 970
  rw [leastInfinite]
  rcases Nat.lt_or_ge number (2 ^ (970 + 53)) with small | least
  · have bounded : (number : ℚ) / (1 : ℕ) < 2 ^ (1023 : ℤ) := by
      rw [Nat.cast_one, div_one]
      calc (number : ℚ) < (2 ^ (970 + 53) : ℕ) := Nat.cast_lt.mpr small
        _ = 2 ^ (970 + 53) := Nat.cast_pow 2 _
        _ = 2 ^ (1023 : ℤ) := (zpow_natCast 2 (970 + 53)).symm
    obtain ⟨magnitude, found⟩ := exists_nearest? Nat.one_pos bounded
    rw [found]
    exact iff_of_false (by simp) (Nat.not_le.mpr (Nat.lt_of_lt_of_le small low))
  have positive : 0 < number := Nat.lt_of_lt_of_le (Nat.two_pow_pos _) least
  have place := le_lastPlace_of_le least
  rw [nearest?_large positive place]
  rcases Nat.lt_or_ge number (2 ^ (970 + 54)) with less | beyond
  · have same : lastPlace ((number : ℚ) / (1 : ℕ)) = (970 + 1 : ℕ) :=
      le_antisymm (lastPlace_le_of_lt positive less) place
    rw [lastPlaces_eq_iff positive same, same]
    exact or_iff_right (by decide)
  · have above := le_lastPlace_of_le beyond
    exact iff_of_true (.inl (by omega)) (high.trans beyond)

/-- An integer below a number is not above what the number is rounded to. -/
theorem Magnitude.le_roundUp (below : number ≤ magnitude.value) : number ≤ magnitude.roundUp := by
  have room := magnitude.denominator_pos
  have whole : number * magnitude.denominator ≤ magnitude.numerator := by
    rw [magnitude.value_eq_div, le_div_iff₀ (Nat.cast_pos.mpr room)] at below
    exact_mod_cast below
  rw [Magnitude.roundUp, Nat.le_div_iff_mul_le (by omega)]
  linarith

end CreatureNaming.Binary64
