import CreatureNaming.Number.Binary64
import Mathlib.Data.Int.Log
import Mathlib.Data.Rat.Floor
import Mathlib.Tactic.FieldSimp
import Mathlib.Tactic.Linarith
import Mathlib.Tactic.Positivity

/-! The nearest number in double precision.

A positive quotient has its last place 52 places behind its first binary digit, or at `2^-1074` if
that is higher. It is rounded to a multiple of the last place that is at most half of it away, and
to the only one that is less than half away if there is such a multiple.
-/

set_option autoImplicit false

namespace CreatureNaming.Binary64

variable {numerator denominator : Nat} {magnitude : Magnitude}

/-- The value of a magnitude. -/
def Magnitude.value (magnitude : Magnitude) : ℚ := magnitude.mantissa * 2 ^ magnitude.exponent

theorem zpow_eq_div (exponent : ℤ) :
    (2 : ℚ) ^ exponent = (2 ^ exponent.toNat : ℕ) / (2 ^ (-exponent).toNat : ℕ) := by
  rcases Int.le_total 0 exponent with up | down
  · obtain ⟨power, rfl⟩ := Int.eq_ofNat_of_zero_le up
    simp
  · obtain ⟨power, whole⟩ := Int.eq_ofNat_of_zero_le (Int.neg_nonneg_of_nonpos down)
    obtain rfl : exponent = -power := by omega
    simp

theorem Magnitude.denominator_pos (magnitude : Magnitude) : 0 < magnitude.denominator :=
  Nat.two_pow_pos _

theorem Magnitude.value_eq_div (magnitude : Magnitude) :
    magnitude.value = magnitude.numerator / magnitude.denominator := by
  rw [value, zpow_eq_div, numerator, denominator, Nat.pow_eq, Nat.pow_eq, Nat.cast_mul,
    mul_div_assoc]

/-! ## Rounding a quotient to an integer -/

theorem roundEven_near (numerator : Nat) (positive : 0 < denominator) :
    |(roundEven numerator denominator : ℚ) - numerator / denominator| ≤ 1 / 2 := by
  have room : (0 : ℚ) < denominator := Nat.cast_pos.mpr positive
  have quotient : (numerator : ℚ) / denominator =
      (numerator / denominator : ℕ) + (numerator % denominator : ℕ) / denominator := by
    have split : (numerator : ℚ) =
        denominator * (numerator / denominator : ℕ) + (numerator % denominator : ℕ) := by
      exact_mod_cast (Nat.div_add_mod numerator denominator).symm
    rw [div_eq_iff room.ne', add_mul, div_mul_cancel₀ _ room.ne', mul_comm _ (denominator : ℚ)]
    exact split
  have part : (0 : ℚ) ≤ (numerator % denominator : ℕ) / denominator := by positivity
  have less : ((numerator % denominator : ℕ) : ℚ) / denominator < 1 := by
    rw [div_lt_one room]
    exact_mod_cast Nat.mod_lt numerator positive
  rw [roundEven, quotient, abs_le]
  split_ifs with down
  · have half : ((numerator % denominator : ℕ) : ℚ) / denominator ≤ 1 / 2 := by
      rw [div_le_div_iff₀ room two_pos]
      norm_cast
      omega
    constructor <;> linarith
  · have half : 1 / 2 ≤ ((numerator % denominator : ℕ) : ℚ) / denominator := by
      rw [div_le_div_iff₀ two_pos room]
      norm_cast
      omega
    push_cast
    constructor <;> linarith

theorem roundEven_of_near {value : Nat} (positive : 0 < denominator)
    (near : |(value : ℚ) - numerator / denominator| < 1 / 2) :
    roundEven numerator denominator = value := by
  have rounded := roundEven_near numerator positive
  rw [abs_le] at rounded
  rw [abs_lt] at near
  have below : (roundEven numerator denominator : ℚ) < value + 1 := by linarith
  have above : (value : ℚ) < roundEven numerator denominator + 1 := by linarith
  norm_cast at below above
  omega

/-! ## The last place -/

/-- The exponent of the last place at a positive number. -/
def lastPlace (value : ℚ) : ℤ := max (-1074) (Int.log 2 value - 52)

theorem log_eq {value : ℚ} (exponent : ℤ) (least : 2 ^ exponent ≤ value)
    (less : value < 2 ^ (exponent + 1)) : Int.log 2 value = exponent := by
  have positive : 0 < value := lt_of_lt_of_le (zpow_pos two_pos _) least
  have low := (Int.zpow_le_iff_le_log one_lt_two positive).mp least
  have high := (Int.lt_zpow_iff_log_lt one_lt_two positive).mp less
  omega

/-- The powers of two beside a quotient, by the lengths of its parts. -/
theorem quotient_bounds (positive : 0 < numerator) (nonzero : 0 < denominator) :
    (2 : ℚ) ^ ((numerator.log2 : ℤ) - denominator.log2 - 1) ≤ numerator / denominator ∧
      (numerator : ℚ) / denominator < 2 ^ ((numerator.log2 : ℤ) - denominator.log2 + 1) := by
  have room : (0 : ℚ) < denominator := Nat.cast_pos.mpr nonzero
  have cut (number : Nat) (some : 0 < number) :
      (2 : ℚ) ^ (number.log2 : ℤ) ≤ number ∧ (number : ℚ) < 2 ^ ((number.log2 : ℤ) + 1) := by
    constructor
    · exact_mod_cast Nat.log2_self_le some.ne'
    · exact_mod_cast Nat.lt_log2_self
  obtain ⟨least, less⟩ := cut numerator positive
  obtain ⟨leastBelow, lessBelow⟩ := cut denominator nonzero
  constructor
  · rw [le_div_iff₀ room]
    calc (2 : ℚ) ^ ((numerator.log2 : ℤ) - denominator.log2 - 1) * denominator
        ≤ 2 ^ ((numerator.log2 : ℤ) - denominator.log2 - 1) * 2 ^ ((denominator.log2 : ℤ) + 1) :=
          mul_le_mul_of_nonneg_left lessBelow.le (zpow_pos two_pos _).le
      _ = 2 ^ (numerator.log2 : ℤ) := by
          rw [← zpow_add₀ two_ne_zero]
          congr 1
          omega
      _ ≤ numerator := least
  · rw [div_lt_iff₀ room]
    calc (numerator : ℚ) < 2 ^ ((numerator.log2 : ℤ) + 1) := less
      _ = 2 ^ ((numerator.log2 : ℤ) - denominator.log2 + 1) * 2 ^ (denominator.log2 : ℤ) := by
          rw [← zpow_add₀ two_ne_zero]
          congr 1
          omega
      _ ≤ 2 ^ ((numerator.log2 : ℤ) - denominator.log2 + 1) * denominator :=
          mul_le_mul_of_nonneg_left leastBelow (zpow_pos two_pos _).le

theorem le_quotient_iff (nonzero : 0 < denominator) (exponent : ℤ) :
    2 * leastFull * denominator * Nat.pow 2 exponent.toNat ≤
        numerator * Nat.pow 2 (-exponent).toNat ↔
      (2 : ℚ) ^ (exponent + 53) ≤ numerator / denominator := by
  have room : (0 : ℚ) < denominator := Nat.cast_pos.mpr nonzero
  have divisor : (0 : ℚ) < (2 ^ (-exponent).toNat : ℕ) := by positivity
  have full : ((2 * leastFull : ℕ) : ℚ) = 2 ^ (53 : ℤ) := by norm_num [leastFull]
  rw [zpow_add₀ two_ne_zero, zpow_eq_div, ← full, div_mul_eq_mul_div, div_le_div_iff₀ divisor room]
  norm_cast
  simp only [Nat.pow_eq]
  constructor <;> intro h <;> linarith

theorem unitExponent_eq_lastPlace (positive : 0 < numerator) (nonzero : 0 < denominator) :
    unitExponent numerator denominator = lastPlace (numerator / denominator) := by
  obtain ⟨least, less⟩ := quotient_bounds positive nonzero
  rw [unitExponent, lastPlace]
  simp only [le_quotient_iff nonzero]
  -- The lengths of the parts leave two candidates for the logarithm.
  split_ifs with reaches
  · rw [log_eq ((numerator.log2 : ℤ) - denominator.log2) (by simpa using reaches) less]
    omega
  · have below := lt_of_not_ge reaches
    rw [sub_add_cancel] at below
    rw [log_eq _ least (by simpa using below)]
    omega

theorem lastPlace_least (value : ℚ) : -1074 ≤ lastPlace value := le_max_left _ _

/-- A positive number is less than `2^53` of its last places. -/
theorem lt_lastPlace {value : ℚ} (positive : 0 < value) : value / 2 ^ lastPlace value < 2 ^ 53 := by
  rw [div_lt_iff₀ (zpow_pos two_pos _), ← zpow_natCast, ← zpow_add₀ two_ne_zero]
  apply (Int.lt_zpow_iff_log_lt one_lt_two positive).mpr
  rw [lastPlace]
  omega

/-- Above the smallest unit a number is at least `2^52` of its last places. -/
theorem le_lastPlace {value : ℚ} (positive : 0 < value) (above : -1074 < lastPlace value) :
    2 ^ 52 ≤ value / 2 ^ lastPlace value := by
  rw [le_div_iff₀ (zpow_pos two_pos _), ← zpow_natCast, ← zpow_add₀ two_ne_zero]
  apply (Int.zpow_le_iff_le_log one_lt_two positive).mpr
  rw [lastPlace] at above ⊢
  omega

/-! ## The nearest magnitude -/

/-- The quotient in units of its last place, as it is rounded. -/
def lastPlaces (numerator denominator : Nat) : Nat :=
  let unit := lastPlace (numerator / denominator)
  roundEven (numerator * Nat.pow 2 (-unit).toNat) (denominator * Nat.pow 2 unit.toNat)

theorem lastPlaces_quotient (nonzero : 0 < denominator) (unit : ℤ) :
    ((numerator * Nat.pow 2 (-unit).toNat : ℕ) : ℚ) / (denominator * Nat.pow 2 unit.toNat : ℕ) =
      numerator / denominator / 2 ^ unit := by
  have room : (denominator : ℚ) ≠ 0 := Nat.cast_ne_zero.mpr nonzero.ne'
  rw [zpow_eq_div]
  simp only [Nat.pow_eq]
  push_cast
  field_simp

theorem lastPlaces_near (numerator : Nat) (nonzero : 0 < denominator) :
    |(lastPlaces numerator denominator : ℚ) -
      numerator / denominator / 2 ^ lastPlace (numerator / denominator)| ≤ 1 / 2 := by
  rw [← lastPlaces_quotient nonzero]
  exact roundEven_near _ (Nat.mul_pos nonzero (Nat.two_pow_pos _))

theorem lastPlaces_of_near {value : Nat} (nonzero : 0 < denominator)
    (near : |(value : ℚ) - numerator / denominator / 2 ^ lastPlace (numerator / denominator)| <
      1 / 2) : lastPlaces numerator denominator = value := by
  rw [← lastPlaces_quotient nonzero] at near
  exact roundEven_of_near (Nat.mul_pos nonzero (Nat.two_pow_pos _)) near

theorem lastPlaces_le (positive : 0 < numerator) (nonzero : 0 < denominator) :
    lastPlaces numerator denominator ≤ 2 * leastFull := by
  have quotient : (0 : ℚ) < numerator / denominator := by positivity
  have near := (abs_le.mp (lastPlaces_near numerator nonzero)).2
  have less : (lastPlaces numerator denominator : ℚ) < 2 ^ 53 + 1 := by
    linarith [lt_lastPlace quotient]
  have bound : lastPlaces numerator denominator < 2 ^ 53 + 1 := by exact_mod_cast less
  rw [leastFull]
  omega

theorem leastFull_le_lastPlaces (positive : 0 < numerator) (nonzero : 0 < denominator)
    (above : -1074 < lastPlace (numerator / denominator)) :
    leastFull ≤ lastPlaces numerator denominator := by
  have quotient : (0 : ℚ) < numerator / denominator := by positivity
  have near := (abs_le.mp (lastPlaces_near numerator nonzero)).1
  have more : (2 : ℚ) ^ 52 < lastPlaces numerator denominator + 1 := by
    linarith [le_lastPlace quotient above]
  have bound : 2 ^ 52 < lastPlaces numerator denominator + 1 := by exact_mod_cast more
  rw [leastFull]
  omega

theorem nearest?_carried (positive : 0 < numerator) (nonzero : 0 < denominator)
    (carried : lastPlaces numerator denominator = 2 * leastFull) :
    nearest? numerator denominator =
      if fits : Fits leastFull (lastPlace (numerator / denominator) + 1) then some ⟨_, _, fits⟩
      else none := by
  rw [lastPlaces] at carried
  simp only [nearest?, if_neg positive.ne', unitExponent_eq_lastPlace positive nonzero, carried,
    if_true]

theorem nearest?_fitting (positive : 0 < numerator) (nonzero : 0 < denominator)
    (fitting : lastPlaces numerator denominator ≠ 2 * leastFull) :
    nearest? numerator denominator =
      if fits : Fits (lastPlaces numerator denominator) (lastPlace (numerator / denominator)) then
        some ⟨_, _, fits⟩
      else none := by
  rw [lastPlaces] at fitting
  simp only [nearest?, if_neg positive.ne', unitExponent_eq_lastPlace positive nonzero, fitting,
    if_false, lastPlaces]
  rfl

theorem value_of_nearest? (positive : 0 < numerator) (nonzero : 0 < denominator)
    (found : nearest? numerator denominator = some magnitude) :
    magnitude.value =
      lastPlaces numerator denominator * 2 ^ lastPlace (numerator / denominator) := by
  by_cases carried : lastPlaces numerator denominator = 2 * leastFull
  · rw [nearest?_carried positive nonzero carried] at found
    obtain ⟨fits, same⟩ := Option.dite_none_right_eq_some.mp found
    cases same
    rw [Magnitude.value, carried, zpow_add₀ two_ne_zero]
    push_cast
    ring
  · rw [nearest?_fitting positive nonzero carried] at found
    obtain ⟨fits, same⟩ := Option.dite_none_right_eq_some.mp found
    cases same
    rfl

theorem eq_zero_of_nearest? (found : nearest? 0 denominator = some magnitude) :
    magnitude = .zero :=
  (Option.some.inj found).symm

/-- A quotient that is not too large has a nearest magnitude. -/
theorem exists_nearest? (nonzero : 0 < denominator)
    (bounded : (numerator : ℚ) / denominator < 2 ^ (1023 : ℤ)) :
    ∃ magnitude, nearest? numerator denominator = some magnitude := by
  rcases Nat.eq_zero_or_pos numerator with rfl | positive
  · exact ⟨.zero, rfl⟩
  have quotient : (0 : ℚ) < numerator / denominator := by positivity
  have log := (Int.lt_zpow_iff_log_lt one_lt_two quotient).mp bounded
  have unit : lastPlace (numerator / denominator) ≤ 970 := by
    rw [lastPlace]
    omega
  have unitLeast := lastPlace_least ((numerator : ℚ) / denominator)
  -- Only a mantissa that is carried to a power of two takes an exponent above the last place.
  by_cases carried : lastPlaces numerator denominator = 2 * leastFull
  · rw [nearest?_carried positive nonzero carried, dif_pos]
    · exact ⟨_, rfl⟩
    · exact ⟨by decide, by omega, by omega, .inl le_rfl⟩
  · rw [nearest?_fitting positive nonzero carried, dif_pos]
    · exact ⟨_, rfl⟩
    · have room := lastPlaces_le positive nonzero
      refine ⟨by omega, unitLeast, by omega, ?_⟩
      rcases eq_or_lt_of_le unitLeast with least | above
      · exact .inr least.symm
      · exact .inl (leastFull_le_lastPlaces positive nonzero above)

@[simp]
theorem Magnitude.value_zero : Magnitude.zero.value = 0 := by
  rw [value, zero, Nat.cast_zero, zero_mul]

theorem abs_places_sub (places value : ℚ) {place : ℚ} (positive : 0 < place) :
    |places * place - value| = |places - value / place| * place := by
  rw [← abs_of_pos positive, ← abs_mul, abs_of_pos positive, sub_mul,
    div_mul_cancel₀ _ positive.ne']

/-- The nearest magnitude is at most half of the last place away. -/
theorem value_near (positive : 0 < numerator) (nonzero : 0 < denominator)
    (found : nearest? numerator denominator = some magnitude) :
    |magnitude.value - numerator / denominator| ≤
      2 ^ lastPlace (numerator / denominator) / 2 := by
  have unit : (0 : ℚ) < 2 ^ lastPlace (numerator / denominator) := zpow_pos two_pos _
  rw [value_of_nearest? positive nonzero found, abs_places_sub _ _ unit]
  calc _ ≤ 1 / 2 * (2 : ℚ) ^ lastPlace (numerator / denominator) :=
        mul_le_mul_of_nonneg_right (lastPlaces_near numerator nonzero) unit.le
    _ = 2 ^ lastPlace (numerator / denominator) / 2 := by ring

/-- A multiple of the last place that is less than half of it away is the nearest magnitude. -/
theorem value_of_near (places : Nat) (positive : 0 < numerator) (nonzero : 0 < denominator)
    (found : nearest? numerator denominator = some magnitude)
    (near : |places * 2 ^ lastPlace (numerator / denominator) - (numerator : ℚ) / denominator| <
      2 ^ lastPlace (numerator / denominator) / 2) :
    magnitude.value = places * 2 ^ lastPlace (numerator / denominator) := by
  have unit : (0 : ℚ) < 2 ^ lastPlace (numerator / denominator) := zpow_pos two_pos _
  rw [abs_places_sub _ _ unit] at near
  have half : |(places : ℚ) - numerator / denominator / 2 ^ lastPlace (numerator / denominator)| <
      1 / 2 := by
    refine lt_of_mul_lt_mul_right (lt_of_lt_of_eq near ?_) unit.le
    ring
  rw [value_of_nearest? positive nonzero found, lastPlaces_of_near nonzero half]

theorem lastPlace_le {mantissa : Nat} {exponent : ℤ} (few : mantissa < 2 ^ 53)
    (least : -1074 ≤ exponent) (positive : 0 < mantissa) :
    lastPlace (mantissa * 2 ^ exponent) ≤ exponent := by
  have product : (0 : ℚ) < mantissa * 2 ^ exponent :=
    mul_pos (Nat.cast_pos.mpr positive) (zpow_pos two_pos _)
  have less : (mantissa : ℚ) * 2 ^ exponent < 2 ^ (53 + exponent) := by
    rw [zpow_add₀ two_ne_zero]
    exact mul_lt_mul_of_pos_right (by exact_mod_cast few) (zpow_pos two_pos _)
  have log := (Int.lt_zpow_iff_log_lt one_lt_two product).mp less
  rw [lastPlace]
  omega

/-- A quotient that can be written with 53 bits is not rounded. -/
theorem value_of_exact {mantissa : Nat} {exponent : ℤ} (nonzero : 0 < denominator)
    (found : nearest? numerator denominator = some magnitude) (few : mantissa < 2 ^ 53)
    (least : -1074 ≤ exponent) (written : (numerator : ℚ) / denominator = mantissa * 2 ^ exponent) :
    magnitude.value = numerator / denominator := by
  rcases Nat.eq_zero_or_pos numerator with rfl | positive
  · obtain rfl := eq_zero_of_nearest? found
    rw [Magnitude.value_zero, Nat.cast_zero, zero_div]
  have quotient : (0 : ℚ) < numerator / denominator := by positivity
  have significant : 0 < mantissa := by
    apply Nat.pos_of_ne_zero
    rintro rfl
    rw [written, Nat.cast_zero, zero_mul] at quotient
    exact lt_irrefl _ quotient
  have place := lastPlace_le few least significant
  rw [← written] at place
  obtain ⟨more, above⟩ := Int.le.dest place
  -- The quotient is a multiple of its last place.
  have whole : ((mantissa * 2 ^ more : ℕ) : ℚ) * 2 ^ lastPlace (numerator / denominator) =
      numerator / denominator := by
    conv_rhs => rw [written, ← above, zpow_add₀ two_ne_zero, zpow_natCast]
    push_cast
    ring
  rw [value_of_near (mantissa * 2 ^ more) positive nonzero found, whole]
  rw [whole, sub_self, abs_zero]
  exact div_pos (zpow_pos two_pos _) two_pos

theorem exists_exact {mantissa : Nat} {exponent : ℤ} (nonzero : 0 < denominator)
    (few : mantissa < 2 ^ 53) (least : -1074 ≤ exponent) (most : exponent ≤ 970)
    (written : (numerator : ℚ) / denominator = mantissa * 2 ^ exponent) :
    ∃ magnitude, nearest? numerator denominator = some magnitude ∧
      magnitude.value = numerator / denominator := by
  have bounded : (numerator : ℚ) / denominator < 2 ^ (1023 : ℤ) := by
    rw [written, show (1023 : ℤ) = 53 + 970 by rfl, zpow_add₀ two_ne_zero]
    exact mul_lt_mul (by exact_mod_cast few) (zpow_le_zpow_right₀ one_le_two most)
      (zpow_pos two_pos _) (zpow_pos two_pos _).le
  obtain ⟨magnitude, found⟩ := exists_nearest? nonzero bounded
  exact ⟨magnitude, found, value_of_exact nonzero found few least written⟩

/-- Integers of 53 bits are numbers. -/
theorem exists_integer {number : Nat} (few : number < 2 ^ 53) :
    ∃ magnitude, nearest? number 1 = some magnitude ∧ magnitude.value = number := by
  have written : (number : ℚ) / (1 : ℕ) = number * 2 ^ (0 : ℤ) := by simp
  obtain ⟨magnitude, found, value⟩ :=
    exists_exact Nat.one_pos few (by decide) (by decide) written
  exact ⟨magnitude, found, by rw [value, Nat.cast_one, div_one]⟩

/-- Rounding does not lead beyond a power of two. -/
theorem value_le (nonzero : 0 < denominator)
    (found : nearest? numerator denominator = some magnitude) {exponent : ℤ}
    (least : -1021 ≤ exponent) (less : (numerator : ℚ) / denominator < 2 ^ exponent) :
    magnitude.value ≤ 2 ^ exponent := by
  rcases Nat.eq_zero_or_pos numerator with rfl | positive
  · obtain rfl := eq_zero_of_nearest? found
    rw [Magnitude.value_zero]
    exact (zpow_pos two_pos _).le
  have quotient : (0 : ℚ) < numerator / denominator := by positivity
  have log := (Int.lt_zpow_iff_log_lt one_lt_two quotient).mp less
  have place : 53 + lastPlace ((numerator : ℚ) / denominator) ≤ exponent := by
    rw [lastPlace]
    omega
  have few : (lastPlaces numerator denominator : ℚ) ≤ 2 ^ (53 : ℤ) := by
    exact_mod_cast lastPlaces_le positive nonzero
  calc magnitude.value
      = lastPlaces numerator denominator * 2 ^ lastPlace (numerator / denominator) :=
        value_of_nearest? positive nonzero found
    _ ≤ 2 ^ (53 : ℤ) * 2 ^ lastPlace (numerator / denominator) :=
        mul_le_mul_of_nonneg_right few (zpow_pos two_pos _).le
    _ = 2 ^ (53 + lastPlace (numerator / denominator)) := (zpow_add₀ two_ne_zero _ _).symm
    _ ≤ 2 ^ exponent := zpow_le_zpow_right₀ one_le_two place

/-- Rounding does not lead below a number that can be written with 53 bits. -/
theorem le_value {mantissa : Nat} {exponent : ℤ} (nonzero : 0 < denominator)
    (found : nearest? numerator denominator = some magnitude) (few : mantissa < 2 ^ 53)
    (least : -1074 ≤ exponent) (below : mantissa * 2 ^ exponent ≤ (numerator : ℚ) / denominator) :
    mantissa * 2 ^ exponent ≤ magnitude.value := by
  rcases Nat.eq_zero_or_pos numerator with rfl | positive
  · obtain rfl := eq_zero_of_nearest? found
    rw [Nat.cast_zero, zero_div] at below
    rwa [Magnitude.value_zero]
  rw [value_of_nearest? positive nonzero found]
  have unit : (0 : ℚ) < 2 ^ lastPlace (numerator / denominator) := zpow_pos two_pos _
  rcases lt_or_ge exponent (lastPlace (numerator / denominator)) with lower | higher
  · have full : (2 ^ 52 : ℚ) ≤ lastPlaces numerator denominator := by
      exact_mod_cast leastFull_le_lastPlaces positive nonzero (by omega)
    calc (mantissa : ℚ) * 2 ^ exponent
        ≤ 2 ^ 53 * 2 ^ exponent :=
          mul_le_mul_of_nonneg_right (by exact_mod_cast few.le) (zpow_pos two_pos _).le
      _ = 2 ^ 52 * 2 ^ (exponent + 1) := by
          rw [zpow_add_one₀ two_ne_zero]
          ring
      _ ≤ 2 ^ 52 * 2 ^ lastPlace (numerator / denominator) :=
          mul_le_mul_of_nonneg_left (zpow_le_zpow_right₀ one_le_two lower) (by norm_num)
      _ ≤ lastPlaces numerator denominator * 2 ^ lastPlace (numerator / denominator) :=
          mul_le_mul_of_nonneg_right full unit.le
  · -- The number is a multiple of the last place, and so is what the quotient is rounded to.
    obtain ⟨more, above⟩ := Int.le.dest higher
    have whole : ((mantissa * 2 ^ more : ℕ) : ℚ) * 2 ^ lastPlace (numerator / denominator) =
        mantissa * 2 ^ exponent := by
      rw [← above, zpow_add₀ two_ne_zero, zpow_natCast]
      push_cast
      ring
    rw [← whole] at below ⊢
    have near := (abs_le.mp (lastPlaces_near numerator nonzero)).1
    have reached := (le_div_iff₀ unit).mpr below
    have less : ((mantissa * 2 ^ more : ℕ) : ℚ) < lastPlaces numerator denominator + 1 := by
      linarith
    have least : mantissa * 2 ^ more ≤ lastPlaces numerator denominator := by
      exact_mod_cast Nat.lt_succ_iff.mp (by exact_mod_cast less)
    exact mul_le_mul_of_nonneg_right (by exact_mod_cast least) unit.le

end CreatureNaming.Binary64
