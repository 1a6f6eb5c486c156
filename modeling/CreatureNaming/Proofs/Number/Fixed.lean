import CreatureNaming.Number.Layout
import CreatureNaming.Proofs.Number.Digits
import CreatureNaming.Proofs.Number.Nearest

/-! Numbers with a fixed number of places.

Rounding by scaling keeps a finite number finite and does not depend on its sign. So the text of a
negative number is the text of its absolute value behind a sign, unless all digits are zeros.
-/

set_option autoImplicit false

namespace CreatureNaming

namespace Binary64

variable {first second magnitude : Magnitude} {numerator denominator : Nat}

theorem ofRatio_of_nearest? (negative : Bool)
    (found : nearest? numerator denominator = some magnitude) :
    ofRatio negative numerator denominator = .finite negative magnitude := by
  rw [ofRatio, found]

theorem less_iff : less (.finite false first) (.finite false second) = true ↔
    first.value < second.value := by
  rw [first.value_eq_div, second.value_eq_div,
    div_lt_div_iff₀ (Nat.cast_pos.mpr first.denominator_pos)
      (Nat.cast_pos.mpr second.denominator_pos)]
  simp only [less, compare?, signedNumerator, Bool.false_eq_true, if_false, beq_iff_eq,
    Option.some.injEq, compare_lt_iff_lt]
  norm_cast

/-- The magnitude nearest to a product. -/
def Magnitude.times? (first second : Magnitude) : Option Magnitude :=
  nearest? (first.numerator * second.numerator) (first.denominator * second.denominator)

/-- The magnitude nearest to a quotient. -/
def Magnitude.over? (first second : Magnitude) : Option Magnitude :=
  nearest? (first.numerator * second.denominator) (first.denominator * second.numerator)

theorem mul_finite (negative : Bool) (product : first.times? second = some magnitude) :
    mul (.finite negative first) (.finite false second) = .finite negative magnitude := by
  rw [mul, Bool.bne_false]
  exact ofRatio_of_nearest? negative product

theorem mul_infinite (negative : Bool) (product : first.times? second = none) :
    mul (.finite negative first) (.finite false second) = .infinite negative := by
  rw [mul, Bool.bne_false, ofRatio]
  rw [Magnitude.times?] at product
  rw [product]

theorem div_finite (negative : Bool) (nonzero : second.mantissa ≠ 0)
    (quotient : first.over? second = some magnitude) :
    div (.finite negative first) (.finite false second) = .finite negative magnitude := by
  rw [div, if_neg nonzero, Bool.bne_false]
  exact ofRatio_of_nearest? negative quotient

theorem times?_quotient (first second : Magnitude) :
    ((first.numerator * second.numerator : ℕ) : ℚ) / (first.denominator * second.denominator : ℕ) =
      first.value * second.value := by
  rw [first.value_eq_div, second.value_eq_div, div_mul_div_comm]
  push_cast
  rfl

theorem over?_quotient (first second : Magnitude) :
    ((first.numerator * second.denominator : ℕ) : ℚ) / (first.denominator * second.numerator : ℕ) =
      first.value / second.value := by
  rw [first.value_eq_div, second.value_eq_div, div_div_div_eq]
  push_cast
  rfl

theorem Magnitude.mantissa_pos (magnitude : Magnitude) (positive : 0 < magnitude.value) :
    0 < magnitude.mantissa := by
  apply Nat.pos_of_ne_zero
  intro zero
  rw [value, zero, Nat.cast_zero, zero_mul] at positive
  exact lt_irrefl _ positive

theorem Magnitude.numerator_pos (magnitude : Magnitude) (positive : 0 < magnitude.value) :
    0 < magnitude.numerator :=
  Nat.mul_pos (magnitude.mantissa_pos positive) (Nat.two_pow_pos _)

/-- The integer nearest to a magnitude is beyond it by half at most. -/
theorem Magnitude.roundUp_le (magnitude : Magnitude) :
    (magnitude.roundUp : ℚ) ≤ magnitude.value + 1 / 2 := by
  have room : (0 : ℚ) < magnitude.denominator := Nat.cast_pos.mpr magnitude.denominator_pos
  have whole : magnitude.roundUp * (2 * magnitude.denominator) ≤
      2 * magnitude.numerator + magnitude.denominator := Nat.div_mul_le_self _ _
  have cast : (magnitude.roundUp : ℚ) * (2 * magnitude.denominator) ≤
      2 * magnitude.numerator + magnitude.denominator := by exact_mod_cast whole
  rw [magnitude.value_eq_div, div_add' _ _ _ room.ne', le_div_iff₀ room]
  linarith

/-! ## The sign of a number -/

theorem Magnitude.eq_zero_of_numerator (none : magnitude.numerator = 0) : magnitude = .zero := by
  obtain ⟨mantissa, exponent, fits⟩ := magnitude
  obtain rfl : mantissa = 0 :=
    (Nat.mul_eq_zero.mp none).resolve_right (Nat.two_pow_pos _).ne'
  obtain ⟨-, -, -, full | rfl⟩ := fits
  · exact absurd full (by decide)
  · rfl

theorem Magnitude.zero_numerator : Magnitude.zero.numerator = 0 := Nat.zero_mul _

theorem less_zero_finite (negative : Bool) (magnitude : Magnitude) :
    less (.finite negative magnitude) .zero = (negative && magnitude.numerator != 0) := by
  have room : (0 : Int) < Magnitude.zero.denominator :=
    Int.natCast_pos.mpr Magnitude.zero.denominator_pos
  simp only [less, Binary64.zero, compare?, signedNumerator, Magnitude.zero_numerator,
    Nat.cast_zero, Bool.false_eq_true, if_false, zero_mul]
  generalize (Magnitude.zero.denominator : Int) = divisor at room
  rw [Bool.eq_iff_iff, beq_iff_eq, Option.some.injEq, compare_lt_iff_lt, Bool.and_eq_true,
    bne_iff_ne]
  cases negative with
  | false =>
    refine iff_of_false (not_lt.mpr ?_) (fun both => Bool.false_ne_true both.1)
    exact Int.mul_nonneg (Int.natCast_nonneg _) room.le
  | true =>
    rw [if_pos rfl, Int.neg_mul, Int.neg_neg_iff_pos, mul_pos_iff_of_pos_right room,
      Int.natCast_pos, Nat.pos_iff_ne_zero, eq_self, true_and]

theorem eq_zero_of_not_less (notLess : less (.finite true magnitude) .zero = false) :
    magnitude = .zero := by
  rw [less_zero_finite, Bool.true_and, bne_eq_false_iff_eq] at notLess
  exact magnitude.eq_zero_of_numerator notLess

theorem ofRatio_not_less {negative : Bool} (none : negative = true → numerator = 0) :
    less (ofRatio negative numerator denominator) .zero = false := by
  cases negative with
  | true =>
    rw [none rfl, ofRatio, nearest?, if_pos rfl, less_zero_finite, Magnitude.zero_numerator]
    rfl
  | false =>
    rw [ofRatio]
    split
    · rw [less_zero_finite, Bool.false_and]
    · rfl

theorem mul_not_less {value : Binary64} (notLess : less value .zero = false)
    (second : Magnitude) : less (mul value (.finite false second)) .zero = false := by
  cases value with
  | nan => rfl
  | infinite negative =>
    cases negative with
    | true => cases notLess
    | false =>
      rw [mul]
      split_ifs <;> rfl
  | finite negative first =>
    rw [mul, Bool.bne_false]
    apply ofRatio_not_less
    rintro rfl
    rw [eq_zero_of_not_less notLess, Magnitude.zero_numerator, Nat.zero_mul]

theorem div_not_less {value : Binary64} (notLess : less value .zero = false)
    (nonzero : second.mantissa ≠ 0) : less (div value (.finite false second)) .zero = false := by
  cases value with
  | nan => rfl
  | infinite negative =>
    cases negative with
    | true => cases notLess
    | false => rfl
  | finite negative first =>
    rw [div, if_neg nonzero, Bool.bne_false]
    apply ofRatio_not_less
    rintro rfl
    rw [eq_zero_of_not_less notLess, Magnitude.zero_numerator, Nat.zero_mul]

end Binary64

namespace Number

open Binary64

variable {magnitude scale scaled : Magnitude} {places : Nat}

theorem exists_limit :
    ∃ limit, nearest? (Nat.pow 10 17) 1 = some limit ∧ limit.value = 10 ^ 17 := by
  have written : ((Nat.pow 10 17 : ℕ) : ℚ) / (1 : ℕ) = (5 ^ 17 : ℕ) * 2 ^ (17 : ℤ) := by norm_num
  obtain ⟨limit, found, value⟩ :=
    exists_exact Nat.one_pos (by decide) (by decide) (by decide) written
  exact ⟨limit, found, by rw [value]; norm_num⟩

/-- The powers of ten by which numbers are scaled are numbers. -/
theorem exists_scale (few : places ≤ maxScaledPlaces) :
    ∃ scale, nearest? (Nat.pow 10 places) 1 = some scale ∧ scale.value = 10 ^ places := by
  have small : Nat.pow 10 places < 2 ^ 53 :=
    lt_of_le_of_lt (Nat.pow_le_pow_right (by decide) few) (by decide)
  obtain ⟨scale, found, value⟩ := exists_integer small
  exact ⟨scale, found, by rw [value, Nat.pow_eq, Nat.cast_pow, Nat.cast_ofNat]⟩

theorem scale_value (few : places ≤ maxScaledPlaces)
    (scaling : nearest? (Nat.pow 10 places) 1 = some scale) : scale.value = 10 ^ places := by
  obtain ⟨other, found, value⟩ := exists_scale few
  obtain rfl := Option.some.inj (scaling.symm.trans found)
  exact value

theorem roundHalfAway_many (value : Binary64) (many : maxScaledPlaces < places) :
    roundHalfAway value places = value := by
  rw [roundHalfAway, decide_eq_true many, Bool.true_or, if_pos rfl]

theorem roundHalfAway_infinite (negative : Bool) (places : Nat) :
    roundHalfAway (.infinite negative) places = .infinite negative := by
  simp [roundHalfAway, isFinite]

/-- A number that is too large when it is scaled is not rounded. -/
theorem roundHalfAway_large (negative : Bool) (few : places ≤ maxScaledPlaces)
    (scaling : nearest? (Nat.pow 10 places) 1 = some scale)
    (large : ∀ scaled, magnitude.times? scale = some scaled → 10 ^ 17 ≤ scaled.value) :
    roundHalfAway (.finite negative magnitude) places = .finite negative magnitude := by
  obtain ⟨limit, limited, value⟩ := exists_limit
  simp only [roundHalfAway, Nat.not_lt.mpr few, ofNat, ofRatio_of_nearest? false scaling,
    ofRatio_of_nearest? false limited]
  cases product : magnitude.times? scale with
  | none =>
    simp only [mul_infinite negative product, isFinite, Bool.not_false, Bool.true_or, if_true,
      ite_self]
  | some scaled =>
    have reached : less (.finite false scaled) (.finite false limit) = false := by
      rw [Bool.eq_false_iff, ne_eq, less_iff, value]
      exact not_lt.mpr (large scaled product)
    simp only [mul_finite negative product, Binary64.abs, reached, Bool.not_false, Bool.or_true,
      if_true, ite_self]

/-- A number that is not too large when it is scaled is rounded as an integer and scaled back. -/
theorem roundHalfAway_scaled (few : places ≤ maxScaledPlaces)
    (scaling : nearest? (Nat.pow 10 places) 1 = some scale)
    (product : magnitude.times? scale = some scaled) (small : scaled.value < 10 ^ 17) :
    ∃ whole rounded, nearest? scaled.roundUp 1 = some whole ∧ whole.over? scale = some rounded ∧
      ∀ negative,
        roundHalfAway (.finite negative magnitude) places = .finite negative rounded := by
  obtain ⟨limit, limited, limitValue⟩ := exists_limit
  have power := scale_value few scaling
  have one : 1 ≤ scale.value := by
    rw [power]
    exact one_le_pow₀ (by norm_num)
  -- Neither the integer nor its quotient comes near the largest number.
  have less57 : (scaled.roundUp : ℚ) / (1 : ℕ) < 2 ^ (57 : ℤ) := by
    have near := scaled.roundUp_le
    have room : (10 : ℚ) ^ 17 + 1 / 2 < 2 ^ (57 : ℤ) := by norm_num
    rw [Nat.cast_one, div_one]
    linarith
  obtain ⟨whole, rounds⟩ := exists_nearest? Nat.one_pos
    (lt_of_lt_of_le less57 (zpow_le_zpow_right₀ one_le_two (by decide)))
  have wholeLe := value_le Nat.one_pos rounds (by decide) less57
  have positive : 0 < scale.value := by linarith
  have nonzero := (scale.mantissa_pos positive).ne'
  have divisor := Nat.mul_pos whole.denominator_pos (scale.numerator_pos positive)
  obtain ⟨rounded, divides⟩ : ∃ rounded, whole.over? scale = some rounded := by
    apply exists_nearest? divisor
    rw [over?_quotient, div_lt_iff₀ (by linarith)]
    calc whole.value ≤ 2 ^ (57 : ℤ) := wholeLe
      _ < 2 ^ (1023 : ℤ) := zpow_lt_zpow_right₀ one_lt_two (by decide)
      _ ≤ 2 ^ (1023 : ℤ) * scale.value := le_mul_of_one_le_right (zpow_pos two_pos _).le one
  refine ⟨whole, rounded, rounds, divides, fun negative => ?_⟩
  have below : less (.finite false scaled) (.finite false limit) = true := by
    rwa [less_iff, limitValue]
  simp only [roundHalfAway, Nat.not_lt.mpr few, ofNat, ofRatio_of_nearest? false scaling,
    ofRatio_of_nearest? false limited, mul_finite negative product, isFinite, Binary64.abs, below,
    Binary64.round, ofRatio_of_nearest? negative rounds, div_finite negative nonzero divides,
    decide_false, Bool.not_true, Bool.or_self, Bool.false_eq_true, if_false]

/-- Rounding keeps a number finite and leaves its sign as it is. -/
theorem exists_roundHalfAway (magnitude : Magnitude) (places : Nat) :
    ∃ rounded, ∀ negative,
      roundHalfAway (.finite negative magnitude) places = .finite negative rounded := by
  by_cases many : maxScaledPlaces < places
  · exact ⟨magnitude, fun _ => roundHalfAway_many _ many⟩
  have few := Nat.not_lt.mp many
  obtain ⟨scale, scaling, -⟩ := exists_scale few
  by_cases large : ∀ scaled, magnitude.times? scale = some scaled → 10 ^ 17 ≤ scaled.value
  · exact ⟨magnitude, fun negative => roundHalfAway_large negative few scaling large⟩
  · push Not at large
    obtain ⟨scaled, product, small⟩ := large
    obtain ⟨_, rounded, _, _, rounds⟩ := roundHalfAway_scaled few scaling product small
    exact ⟨rounded, rounds⟩

/-! ## The text -/

theorem fixedText_split (places : Nat) (magnitude : Magnitude) :
    ∃ whole fraction, fixedText places magnitude = whole ++ pointed fraction ∧
      ArePlaced places whole fraction ∧
      ofDigits (whole ++ fraction) =
        roundAt (-places) magnitude.numerator magnitude.denominator := by
  obtain ⟨whole, fraction, written, placed, value⟩ :=
    positional_split (roundAt (-places) magnitude.numerator magnitude.denominator) (-places)
  have none : (-(places : Int)).toNat = 0 := by omega
  rw [Int.neg_neg, Int.toNat_natCast] at placed
  rw [none, Nat.pow_zero, Nat.mul_one] at value
  exact ⟨whole, fraction, written, placed, value⟩

theorem stripNegativeZero_sign (negative : Bool) {text : List Char}
    (unsigned : text.head? ≠ some '-') :
    stripNegativeZero (signText negative ++ text) =
      signText (negative && !text.all fun c => c == '0' || c == '.') ++ text := by
  cases negative with
  | true =>
    rw [signText, if_pos rfl, List.singleton_append, stripNegativeZero, Bool.true_and]
    cases text.all fun c => c == '0' || c == '.' <;> rfl
  | false =>
    rw [signText, if_neg Bool.false_ne_true, List.nil_append, Bool.false_and, signText,
      if_neg Bool.false_ne_true, List.nil_append]
    apply stripNegativeZero.eq_2
    rintro rest rfl
    exact unsigned rfl

theorem all_zeros {whole fraction : List Char} (placed : ArePlaced places whole fraction) :
    (!(whole ++ pointed fraction).all fun c => c == '0' || c == '.') =
      (whole ++ fraction).any (· != '0') := by
  have among {digits : List Char} (all : ∀ c ∈ digits, c.isDigit = true) :
      (digits.any fun c => !(c == '0' || c == '.')) = digits.any (· != '0') := by
    rw [Bool.eq_iff_iff, List.any_eq_true, List.any_eq_true]
    refine exists_congr fun c => and_congr_right fun member => ?_
    simp [ne_point_of_isDigit (all c member)]
  rw [List.not_all_eq_any_not, List.any_append, List.any_append, among placed.wholeDigits,
    ← among placed.fractionDigits]
  cases fraction with
  | nil => rfl
  | cons first rest => rfl

/-- A rounded number is shown by the digits of its magnitude, behind a sign if it is negative and
some digit is not zero. -/
theorem fixed_of_rounded {negative : Bool} {rounded : Magnitude} {whole fraction : List Char}
    (rounds : roundHalfAway (.finite negative magnitude) places = .finite negative rounded)
    (written : fixedText places rounded = whole ++ pointed fraction)
    (placed : ArePlaced places whole fraction) :
    fixed (.finite negative magnitude) places =
      signText (negative && (whole ++ fraction).any (· != '0')) ++ (whole ++ pointed fraction) := by
  rw [fixed, rounds, ← all_zeros placed, ← stripNegativeZero_sign negative placed.head_ne_sign,
    ← written]
  rfl

theorem roundHalfAway_zero (negative : Bool) (places : Nat) :
    roundHalfAway (.finite negative .zero) places = .finite negative .zero := by
  by_cases many : maxScaledPlaces < places
  · exact roundHalfAway_many _ many
  · -- Scaling takes few places, so it can be run at each of them.
    have few : ∀ negative, ∀ places ≤ 15,
        roundHalfAway (.finite negative .zero) places = .finite negative .zero := by
      decide +kernel
    exact few negative places (Nat.not_lt.mp many)

theorem roundAt_zero (exponent : Int) {denominator : Nat} (positive : 0 < denominator) :
    roundAt exponent 0 denominator = 0 := by
  have divisor : 0 < denominator * Nat.pow 10 exponent.toNat :=
    Nat.mul_pos positive (Nat.pow_pos (by decide))
  rw [roundAt, Nat.zero_mul, roundEven, Nat.zero_div, Nat.zero_mod]
  exact if_pos (.inl divisor)

/-- The digits of a finite number do not depend on its sign, and zero has no other digits than
zeros. -/
theorem exists_fixed (magnitude : Magnitude) (places : Nat) :
    ∃ whole fraction, ArePlaced places whole fraction ∧
      (magnitude = .zero → (whole ++ fraction).any (· != '0') = false) ∧
      ∀ negative, fixed (.finite negative magnitude) places =
        signText (negative && (whole ++ fraction).any (· != '0')) ++
          (whole ++ pointed fraction) := by
  obtain ⟨rounded, rounds⟩ := exists_roundHalfAway magnitude places
  obtain ⟨whole, fraction, written, placed, value⟩ := fixedText_split places rounded
  refine ⟨whole, fraction, placed, ?_,
    fun negative => fixed_of_rounded (rounds negative) written placed⟩
  rintro rfl
  have kept := (rounds false).symm.trans (roundHalfAway_zero false places)
  obtain rfl : rounded = .zero := by injection kept
  refine any_nonzero_of_ofDigits ?_ ?_
  · exact List.forall_mem_append.mpr ⟨placed.wholeDigits, placed.fractionDigits⟩
  · rw [value]
    exact roundAt_zero _ (Magnitude.denominator_pos _)

/-! ## Numbers that are not negative -/

/-- A finite number that is not less than zero has no sign. -/
theorem exists_fixed_of_not_less {value : Binary64} (places : Nat) (finite : value.isFinite = true)
    (notLess : value.less .zero = false) :
    ∃ whole fraction, ArePlaced places whole fraction ∧
      fixed value places = whole ++ pointed fraction := by
  cases value with
  | nan => cases finite
  | infinite negative => cases finite
  | finite negative magnitude =>
    obtain ⟨whole, fraction, placed, zeros, written⟩ := exists_fixed magnitude places
    refine ⟨whole, fraction, placed, ?_⟩
    have unsigned : (negative && (whole ++ fraction).any (· != '0')) = false := by
      cases negative with
      | false => rfl
      | true => exact zeros (eq_zero_of_not_less notLess)
    rw [written, unsigned]
    rfl

end Number

end CreatureNaming
