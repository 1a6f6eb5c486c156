import CreatureNaming.Proofs.Number.Fixed
import CreatureNaming.Proofs.Number.Integers

/-! Integers with a fixed number of places.

A number is rounded to a number of places by scaling it with a power of ten. The product of an
integer of 53 bits can take more bits than that. It is then off by its distance from the nearest
multiple of its last place, and dividing by the power of ten makes up for it only if the distance
is less than half of the last place of the integer, scaled alike.
-/

set_option autoImplicit false

namespace CreatureNaming

namespace Binary64

variable {number places numerator denominator nearby : Nat} {magnitude : Magnitude}

/-- The last place of an integer that takes more than 52 bits. -/
def integerPlace (number : Nat) : Nat := 2 ^ (number.log2 - 52)

/-- The distance of an integer from the nearest multiple of its last place. -/
def offset (number : Nat) : Nat :=
  min (number % integerPlace number) (integerPlace number - number % integerPlace number)

theorem integerPlace_of_small (small : number < 2 ^ 53) : integerPlace number = 1 := by
  rcases Nat.eq_zero_or_pos number with rfl | positive
  · rfl
  · have log := (Nat.log2_lt positive.ne').mpr small
    rw [integerPlace, Nat.sub_eq_zero_of_le (by omega), Nat.pow_zero]

theorem offset_of_dvd (whole : integerPlace number ∣ number) : offset number = 0 := by
  rw [offset, Nat.mod_eq_zero_of_dvd whole, Nat.zero_min]

theorem offset_of_small (small : number < 2 ^ 53) : offset number = 0 :=
  offset_of_dvd (by rw [integerPlace_of_small small]; exact one_dvd _)

theorem integerPlace_le (large : 2 ^ 53 ≤ number) : 2 ^ 52 * integerPlace number ≤ number := by
  have positive : number ≠ 0 := by omega
  have log := (Nat.le_log2 positive).mpr large
  rw [integerPlace, ← Nat.pow_add, Nat.add_sub_cancel' (by omega)]
  exact Nat.log2_self_le positive

/-- An integer is off by one part in `2^53` at most. -/
theorem offset_le (number : Nat) : 2 ^ 53 * offset number ≤ number := by
  rcases Nat.lt_or_ge number (2 ^ 53) with small | large
  · rw [offset_of_small small, Nat.mul_zero]
    exact Nat.zero_le _
  · have place := integerPlace_le large
    have less : number % integerPlace number < integerPlace number :=
      Nat.mod_lt _ (Nat.two_pow_pos _)
    rw [offset]
    omega

/-- A multiple of the last place that is no more than half of it away is off by the distance. -/
theorem abs_sub_eq_offset {times : Nat}
    (near : 2 * |((times * integerPlace number : ℕ) : ℤ) - number| ≤ integerPlace number) :
    |((times * integerPlace number : ℕ) : ℤ) - number| = offset number := by
  have less : number % integerPlace number < integerPlace number :=
    Nat.mod_lt _ (Nat.two_pow_pos _)
  have split := Nat.div_add_mod number (integerPlace number)
  rw [offset]
  generalize integerPlace number = place at *
  generalize number % place = rest at *
  generalize number / place = quotient at *
  subst split
  rcases lt_trichotomy times quotient with below | rfl | above
  · obtain ⟨more, rfl⟩ := Nat.exists_eq_add_of_lt below
    have far : ((times * place : ℕ) : ℤ) - (place * (times + more + 1) + rest : ℕ) =
        -((place * more + place + rest : ℕ) : ℤ) := by
      push_cast
      ring
    rw [far, abs_neg, Nat.abs_cast] at near
    omega
  · have down : ((times * place : ℕ) : ℤ) - (place * times + rest : ℕ) = -(rest : ℤ) := by
      push_cast
      ring
    rw [down, abs_neg, Nat.abs_cast] at near ⊢
    omega
  · obtain ⟨more, rfl⟩ := Nat.exists_eq_add_of_lt above
    have up : (((quotient + more + 1) * place : ℕ) : ℤ) - (place * quotient + rest : ℕ) =
        (place * more + (place - rest) : ℕ) := by
      push_cast [less.le]
      ring
    rw [up, Nat.abs_cast] at near ⊢
    cases more with
    | zero => omega
    | succ more =>
      rw [Nat.mul_succ] at near
      omega

theorem lastPlace_natCast (large : 2 ^ 53 ≤ number) :
    (2 : ℚ) ^ lastPlace number = integerPlace number := by
  have log : 53 ≤ number.log2 := (Nat.le_log2 (by omega)).mpr large
  have place : lastPlace number = (number.log2 - 52 : ℕ) := by
    rw [lastPlace, Int.log_natCast, ← Nat.log2_eq_log_two]
    omega
  rw [place, zpow_natCast, integerPlace, Nat.cast_pow, Nat.cast_ofNat]

/-- The number nearest to an integer is an integer, off by the distance from the last place. -/
theorem exists_nearby (nonzero : 0 < denominator)
    (found : nearest? numerator denominator = some magnitude)
    (whole : (numerator : ℚ) / denominator = number) :
    ∃ nearby : ℕ, magnitude.value = nearby ∧ |(nearby : ℤ) - number| = offset number ∧
      integerPlace number ∣ nearby := by
  rcases Nat.lt_or_ge number (2 ^ 53) with small | large
  · have written : (numerator : ℚ) / denominator = number * 2 ^ (0 : ℤ) := by simp [whole]
    refine ⟨number, ?_, ?_, by rw [integerPlace_of_small small]; exact one_dvd _⟩
    · rw [value_of_exact nonzero found small (by decide) written, whole]
    · rw [sub_self, abs_zero, offset_of_small small, Nat.cast_zero]
  · have positive : 0 < numerator := by
      apply Nat.pos_of_ne_zero
      rintro rfl
      rw [Nat.cast_zero, zero_div] at whole
      have : number = 0 := by exact_mod_cast whole.symm
      omega
    have near := value_near positive nonzero found
    have value := value_of_nearest? positive nonzero found
    rw [whole, lastPlace_natCast large] at near value
    refine ⟨lastPlaces numerator denominator * integerPlace number, ?_, ?_, dvd_mul_left _ _⟩
    · rw [value, Nat.cast_mul]
    · apply abs_sub_eq_offset
      rw [value, le_div_iff₀ two_pos, mul_comm] at near
      exact_mod_cast near

/-! ## Scaling back -/

/-- An integer of 53 bits, and what its product with a power of ten is rounded to. -/
structure RoundsProduct (number places nearby : Nat) : Prop where
  positive : 0 < number
  small : number < 2 ^ 53
  near : |(nearby : ℤ) - (number * 10 ^ places : ℕ)| = offset (number * 10 ^ places)
  multiple : integerPlace (number * 10 ^ places) ∣ nearby
  least : 2 ^ number.log2 * 10 ^ places ≤ nearby

namespace RoundsProduct

/-- The distance is never half of the scaled last place. -/
theorem two_pow_mul_offset_ne (rounds : RoundsProduct number places nearby) :
    2 ^ 53 * offset (number * 10 ^ places) ≠ 10 ^ places * 2 ^ number.log2 := by
  intro half
  have nonzero : number ≠ 0 := rounds.positive.ne'
  rcases Nat.lt_or_ge (number * 10 ^ places) (2 ^ 53) with few | many
  · rw [offset_of_small few, Nat.mul_zero] at half
    exact absurd half.symm (Nat.mul_pos (by positivity) (by positivity)).ne'
  have log : number.log2 < 53 := (Nat.log2_lt nonzero).mpr rounds.small
  have least : number.log2 + places ≤ (number * 10 ^ places).log2 := by
    rw [Nat.le_log2 (by omega), Nat.pow_add]
    exact Nat.mul_le_mul (Nat.log2_self_le nonzero) (Nat.pow_le_pow_left (by decide) places)
  have ten : (10 : ℕ) ^ places = 5 ^ places * 2 ^ places := by rw [← Nat.mul_pow]
  -- Both the product and what it is rounded to have more factors of two than their distance.
  have product : ((2 ^ (number.log2 + places + 1) : ℕ) : ℤ) ∣
      (2 ^ 53 * (number * 10 ^ places) : ℕ) := by
    rw [Int.natCast_dvd_natCast, ten, show 2 ^ 53 * (number * (5 ^ places * 2 ^ places)) =
      2 ^ (53 + places) * (number * 5 ^ places) by ring]
    exact dvd_mul_of_dvd_left (Nat.pow_dvd_pow 2 (by omega)) _
  have rounded : ((2 ^ (number.log2 + places + 1) : ℕ) : ℤ) ∣ (2 ^ 53 * nearby : ℕ) := by
    rw [Int.natCast_dvd_natCast]
    refine dvd_trans ?_ (Nat.mul_dvd_mul_left _ rounds.multiple)
    rw [integerPlace, ← Nat.pow_add]
    exact Nat.pow_dvd_pow 2 (by omega)
  have distance : ((2 ^ (number.log2 + places + 1) : ℕ) : ℤ) ∣
      (2 ^ 53 * offset (number * 10 ^ places) : ℕ) := by
    rw [Nat.cast_mul, ← rounds.near]
    have difference := (dvd_abs _ _).mpr (dvd_sub rounded product)
    rwa [Nat.cast_mul, Nat.cast_mul, ← mul_sub, abs_mul, Nat.abs_cast] at difference
  rw [half, ten, Int.natCast_dvd_natCast, mul_assoc, ← Nat.pow_add, Nat.add_comm places,
    Nat.pow_succ, mul_comm (5 ^ places)] at distance
  have even : 2 ∣ 5 ^ places := Nat.dvd_of_mul_dvd_mul_left (Nat.two_pow_pos _) distance
  have odd : 5 ^ places % 2 = 1 := by simp [Nat.pow_mod]
  omega

/-- Scaling back leads between the same powers of two. -/
theorem lastPlace_eq (rounds : RoundsProduct number places nearby) :
    lastPlace ((nearby : ℚ) / (10 ^ places : ℕ)) = (number.log2 : ℤ) - 52 := by
  have scale : (0 : ℚ) < (10 ^ places : ℕ) := by positivity
  have reaches : (2 : ℚ) ^ (number.log2 : ℤ) ≤ nearby / (10 ^ places : ℕ) := by
    rw [le_div_iff₀ scale]
    exact_mod_cast rounds.least
  have less : (nearby : ℚ) / (10 ^ places : ℕ) < 2 ^ ((number.log2 : ℤ) + 1) := by
    have off : offset (number * 10 ^ places) < 10 ^ places := by
      have part := offset_le (number * 10 ^ places)
      have few : number * 10 ^ places < 2 ^ 53 * 10 ^ places :=
        Nat.mul_lt_mul_of_pos_right rounds.small (by positivity)
      exact Nat.lt_of_mul_lt_mul_left (lt_of_le_of_lt part few)
    have top : number + 1 ≤ 2 ^ (number.log2 + 1) := Nat.lt_log2_self
    have room := Nat.mul_le_mul_right (10 ^ places) top
    rw [Nat.add_mul, Nat.one_mul] at room
    have above : nearby < 2 ^ (number.log2 + 1) * 10 ^ places := by
      have := (abs_le.mp rounds.near.le).2
      omega
    rw [div_lt_iff₀ scale]
    exact_mod_cast above
  rw [lastPlace, log_eq _ reaches less]
  omega

theorem log2_lt (rounds : RoundsProduct number places nearby) : number.log2 < 53 :=
  (Nat.log2_lt rounds.positive.ne').mpr rounds.small

/-- The integer in units of its last place. -/
theorem natCast_eq (rounds : RoundsProduct number places nearby) :
    ((number * 2 ^ (52 - number.log2) : ℕ) : ℚ) * 2 ^ ((number.log2 : ℤ) - 52) = number := by
  have log := rounds.log2_lt
  have split : (2 : ℚ) ^ (52 - number.log2) * 2 ^ number.log2 = 2 ^ 52 := by
    rw [← pow_add, Nat.sub_add_cancel (by omega)]
  rw [zpow_sub₀ two_ne_zero, zpow_natCast, Nat.cast_mul, Nat.cast_pow, Nat.cast_ofNat, mul_assoc,
    ← mul_div_assoc, split]
  norm_num

theorem quotient_pos (rounds : RoundsProduct number places nearby)
    (quotient : (numerator : ℚ) / denominator = nearby / (10 ^ places : ℕ)) : 0 < numerator := by
  have positive : 0 < nearby := lt_of_lt_of_le (by positivity) rounds.least
  have positiveQuotient : (0 : ℚ) < nearby / (10 ^ places : ℕ) := by positivity
  apply Nat.pos_of_ne_zero
  rintro rfl
  rw [← quotient, Nat.cast_zero, zero_div] at positiveQuotient
  exact lt_irrefl _ positiveQuotient

/-- Scaling back leads to the integer if the product is off by less than half of the scaled last
place. -/
theorem value_eq_iff (rounds : RoundsProduct number places nearby) (nonzero : 0 < denominator)
    (found : nearest? numerator denominator = some magnitude)
    (quotient : (numerator : ℚ) / denominator = nearby / (10 ^ places : ℕ)) :
    magnitude.value = number ↔
      2 ^ 53 * offset (number * 10 ^ places) < 10 ^ places * 2 ^ number.log2 := by
  have place := rounds.lastPlace_eq
  have some := rounds.quotient_pos quotient
  have scale : (0 : ℚ) < (10 ^ places : ℕ) := by positivity
  have half : (2 : ℚ) ^ ((number.log2 : ℤ) - 52) / 2 = (2 ^ number.log2 : ℕ) / (2 ^ 53 : ℕ) := by
    rw [zpow_sub₀ two_ne_zero, zpow_natCast, div_div]
    norm_num
  have distance : |(number : ℚ) - nearby / (10 ^ places : ℕ)| =
      offset (number * 10 ^ places) / (10 ^ places : ℕ) := by
    have cast : |(nearby : ℚ) - (number * 10 ^ places : ℕ)| = offset (number * 10 ^ places) := by
      exact_mod_cast rounds.near
    rw [abs_sub_comm, ← cast, eq_div_iff scale.ne', ← abs_of_pos scale, ← abs_mul,
      abs_of_pos scale, sub_mul, div_mul_cancel₀ _ scale.ne', Nat.cast_mul]
  constructor
  · intro exact
    have close := value_near some nonzero found
    rw [quotient, place, exact, half, distance, div_le_div_iff₀ scale (by positivity)] at close
    have atMost : offset (number * 10 ^ places) * 2 ^ 53 ≤ 2 ^ number.log2 * 10 ^ places := by
      exact_mod_cast close
    rw [mul_comm, mul_comm (2 ^ number.log2)] at atMost
    exact lt_of_le_of_ne atMost rounds.two_pow_mul_offset_ne
  · intro less
    have whole : ((number * 2 ^ (52 - number.log2) : ℕ) : ℚ) *
        2 ^ lastPlace ((numerator : ℚ) / denominator) = number := by
      rw [quotient, place, rounds.natCast_eq]
    rw [value_of_near _ some nonzero found, whole]
    rw [whole, quotient, place, half, distance, div_lt_div_iff₀ scale (by positivity)]
    rw [mul_comm, mul_comm (10 ^ places)] at less
    exact_mod_cast less

/-- Scaling back leads to the integer or to a number that shows other digits. -/
theorem value_eq_of_close (rounds : RoundsProduct number places nearby) (nonzero : 0 < denominator)
    (found : nearest? numerator denominator = some magnitude)
    (quotient : (numerator : ℚ) / denominator = nearby / (10 ^ places : ℕ))
    (close : |(number : ℚ) - magnitude.value| * (10 ^ places : ℕ) ≤ 1 / 2) :
    magnitude.value = number := by
  rcases Nat.lt_or_ge (number * 10 ^ places) (2 ^ 53) with few | many
  · rw [rounds.value_eq_iff nonzero found quotient, offset_of_small few, Nat.mul_zero]
    exact Nat.mul_pos (by positivity) (by positivity)
  · -- A product of more than 53 bits leaves the places that are shown finer than the last place.
    have value := value_of_nearest? (rounds.quotient_pos quotient) nonzero found
    rw [quotient, rounds.lastPlace_eq] at value
    have wide : (1 : ℚ) < 2 ^ ((number.log2 : ℤ) - 52) * (10 ^ places : ℕ) := by
      have top : number < 2 ^ (number.log2 + 1) := Nat.lt_log2_self
      have scaled := Nat.mul_lt_mul_of_pos_right top (show 0 < 10 ^ places by positivity)
      rw [Nat.pow_succ, Nat.mul_right_comm] at scaled
      have full : 2 ^ 52 < 2 ^ number.log2 * 10 ^ places := by omega
      rw [zpow_sub₀ two_ne_zero, zpow_natCast, div_mul_eq_mul_div, one_lt_div (by positivity)]
      exact_mod_cast full
    have unit : (0 : ℚ) < 2 ^ ((number.log2 : ℤ) - 52) := zpow_pos two_pos _
    rw [value, ← rounds.natCast_eq, ← sub_mul, abs_mul, mul_assoc, abs_of_pos unit] at close
    have less : |((number * 2 ^ (52 - number.log2) : ℕ) : ℚ) -
        lastPlaces numerator denominator| < 1 := by
      by_contra far
      have := mul_le_mul_of_nonneg_right (not_lt.mp far) (zero_le_one.trans wide.le)
      linarith
    have same : (number * 2 ^ (52 - number.log2) : ℕ) = lastPlaces numerator denominator := by
      have apart : |((number * 2 ^ (52 - number.log2) : ℕ) : ℤ) -
          lastPlaces numerator denominator| < 1 := by exact_mod_cast less
      have := Int.abs_lt_one_iff.mp apart
      omega
    rw [value, ← same, rounds.natCast_eq]

end RoundsProduct

/-- An integer is not rounded to another one. -/
theorem Magnitude.roundUp_of_value (value : magnitude.value = number) :
    magnitude.roundUp = number := by
  have room := magnitude.denominator_pos
  have whole : magnitude.numerator = number * magnitude.denominator := by
    have ratio := magnitude.value_eq_div
    rw [value, eq_div_iff (Nat.cast_ne_zero.mpr room.ne')] at ratio
    exact_mod_cast ratio.symm
  rw [Magnitude.roundUp, whole]
  apply Nat.div_eq_of_lt_le
  · linarith
  · linarith

/-- An integer that is a number already is not rounded. -/
theorem value_of_value {other : Magnitude} (value : other.value = number)
    (found : nearest? number 1 = some magnitude) : magnitude.value = number := by
  obtain ⟨few, least, -, -⟩ := other.fits
  have written : (number : ℚ) / (1 : ℕ) = other.mantissa * 2 ^ other.exponent := by
    rw [Nat.cast_one, div_one, ← value, Magnitude.value]
  rw [value_of_exact Nat.one_pos found few least written, Nat.cast_one, div_one]

end Binary64

namespace Number

open Binary64

variable {number places : Nat} {magnitude scale scaled : Magnitude}

/-- Whether an integer of 53 bits stays what it is when it is rounded to a number of places: it is
not scaled at all, or the product is off by less than half of the scaled last place. -/
def KeepsInteger (number places : Nat) : Prop :=
  maxScaledPlaces < places ∨ 10 ^ 17 ≤ number * 10 ^ places ∨
    2 ^ 53 * offset (number * 10 ^ places) < 10 ^ places * 2 ^ number.log2

instance (number places : Nat) : Decidable (KeepsInteger number places) :=
  inferInstanceAs (Decidable (_ ∨ _))

theorem exists_roundsProduct (few : places ≤ maxScaledPlaces) (positive : 0 < number)
    (small : number < 2 ^ 53) (value : magnitude.value = number)
    (power : scale.value = 10 ^ places) (product : magnitude.times? scale = some scaled) :
    ∃ nearby : ℕ, scaled.value = nearby ∧ RoundsProduct number places nearby := by
  have divisor := Nat.mul_pos magnitude.denominator_pos scale.denominator_pos
  have whole := times?_quotient magnitude scale
  rw [value, power] at whole
  have integer : (number : ℚ) * 10 ^ places = (number * 10 ^ places : ℕ) := by
    push_cast
    rfl
  obtain ⟨nearby, isNearby, near, multiple⟩ :=
    exists_nearby divisor product (whole.trans integer)
  refine ⟨nearby, isNearby, positive, small, near, multiple, ?_⟩
  -- A power of two takes few bits when it is scaled, so rounding does not lead below it.
  have bits : 5 ^ places < 2 ^ 53 :=
    lt_of_le_of_lt (Nat.pow_le_pow_right (by decide) few) (by decide)
  have split : ((5 ^ places : ℕ) : ℚ) * 2 ^ ((number.log2 + places : ℕ) : ℤ) =
      (2 ^ number.log2 * 10 ^ places : ℕ) := by
    rw [zpow_natCast, show (10 : ℕ) = 5 * 2 by rfl, Nat.mul_pow]
    push_cast
    ring
  have below : ((5 ^ places : ℕ) : ℚ) * 2 ^ ((number.log2 + places : ℕ) : ℤ) ≤
      (magnitude.numerator * scale.numerator : ℕ) /
        (magnitude.denominator * scale.denominator : ℕ) := by
    rw [split, whole, Nat.cast_mul, Nat.cast_pow, Nat.cast_pow, Nat.cast_ofNat, Nat.cast_ofNat]
    have power := Nat.log2_self_le positive.ne'
    exact mul_le_mul_of_nonneg_right (by exact_mod_cast power) (by positivity)
  have least := le_value divisor product bits (by omega) below
  rw [split, isNearby] at least
  exact_mod_cast least

/-- An integer of 53 bits that is scaled below `10^17` stays away from it. -/
theorem scaled_add_le (small : number < 2 ^ 53) (below : number * 10 ^ places < 10 ^ 17) :
    number * 10 ^ places + 100 ≤ 10 ^ 17 := by
  rcases places with _ | _ | places
  · omega
  · omega
  · have hundreds : number * 10 ^ (places + 1 + 1) = number * 10 ^ places * 100 := by ring
    rw [hundreds] at below ⊢
    omega

/-- What a number is rounded to that is an integer: that integer exactly if it is kept, and
otherwise a number that shows other digits. -/
structure RoundsInteger (number places : Nat) (magnitude rounded : Magnitude) : Prop where
  rounds : ∀ negative,
    roundHalfAway (.finite negative magnitude) places = .finite negative rounded
  value_eq_iff : rounded.value = number ↔ KeepsInteger number places
  value_eq_of_close :
    |(number : ℚ) - rounded.value| * (10 ^ places : ℕ) ≤ 1 / 2 → rounded.value = number

theorem RoundsInteger.of_kept (value : magnitude.value = number)
    (keeps : KeepsInteger number places)
    (rounds : ∀ negative,
      roundHalfAway (.finite negative magnitude) places = .finite negative magnitude) :
    RoundsInteger number places magnitude magnitude :=
  ⟨rounds, iff_of_true value keeps, fun _ => value⟩

/-- A product beyond `10^17` is not used. -/
theorem roundsInteger_large (few : places ≤ maxScaledPlaces) (value : magnitude.value = number)
    (large : 10 ^ 17 ≤ number * 10 ^ places) :
    RoundsInteger number places magnitude magnitude := by
  obtain ⟨scale, scaling, power⟩ := exists_scale few
  refine .of_kept value (.inr (.inl large)) fun negative =>
    roundHalfAway_large negative few scaling fun scaled product => ?_
  have divisor := Nat.mul_pos magnitude.denominator_pos scale.denominator_pos
  have limit : ((5 ^ 17 : ℕ) : ℚ) * 2 ^ (17 : ℤ) = 10 ^ 17 := by norm_num
  rw [← limit]
  refine le_value divisor product (by decide) (by decide) ?_
  rw [times?_quotient, value, power, limit]
  exact_mod_cast large

theorem exists_roundsInteger_scaled (few : places ≤ maxScaledPlaces) (positive : 0 < number)
    (small : number < 2 ^ 53) (value : magnitude.value = number)
    (below : number * 10 ^ places < 10 ^ 17) :
    ∃ rounded, RoundsInteger number places magnitude rounded := by
  obtain ⟨scale, scaling, power⟩ := exists_scale few
  have divisor := Nat.mul_pos magnitude.denominator_pos scale.denominator_pos
  obtain ⟨scaled, product⟩ : ∃ scaled, magnitude.times? scale = some scaled := by
    apply exists_nearest? divisor
    rw [times?_quotient, value, power]
    calc (number : ℚ) * 10 ^ places < 10 ^ 17 := by exact_mod_cast below
      _ < 2 ^ (57 : ℤ) := by norm_num
      _ ≤ 2 ^ (1023 : ℤ) := zpow_le_zpow_right₀ one_le_two (by decide)
  obtain ⟨nearby, isNearby, roundsProduct⟩ :=
    exists_roundsProduct few positive small value power product
  have limited : scaled.value < 10 ^ 17 := by
    have room := scaled_add_le small below
    have part := offset_le (number * 10 ^ places)
    have near := (abs_le.mp roundsProduct.near.le).2
    have less : nearby < 10 ^ 17 := by omega
    rw [isNearby]
    exact_mod_cast less
  obtain ⟨integer, rounded, isInteger, divides, rounds⟩ :=
    roundHalfAway_scaled few scaling product limited
  rw [scaled.roundUp_of_value isNearby] at isInteger
  have quotient := over?_quotient integer scale
  rw [value_of_value isNearby isInteger, power, ← Nat.cast_ofNat, ← Nat.cast_pow] at quotient
  have nonzero := Nat.mul_pos integer.denominator_pos
    (scale.numerator_pos (by rw [power]; positivity))
  refine ⟨rounded, rounds, ?_, roundsProduct.value_eq_of_close nonzero divides quotient⟩
  rw [roundsProduct.value_eq_iff nonzero divides quotient, KeepsInteger,
    or_iff_right (Nat.not_lt.mpr few), or_iff_right (Nat.not_le.mpr below)]

theorem exists_roundsInteger (small : number < 2 ^ 53)
    (found : nearest? number 1 = some magnitude) (places : Nat) :
    ∃ rounded, RoundsInteger number places magnitude rounded := by
  obtain ⟨other, isOther, value⟩ := exists_integer small
  obtain rfl := Option.some.inj (found.symm.trans isOther)
  by_cases many : maxScaledPlaces < places
  · exact ⟨_, .of_kept value (.inl many) fun _ => roundHalfAway_many _ many⟩
  have few := Nat.not_lt.mp many
  rcases Nat.eq_zero_or_pos number with rfl | positive
  · obtain rfl := eq_zero_of_nearest? found
    refine ⟨_, .of_kept value (.inr (.inr ?_)) fun negative => roundHalfAway_zero negative places⟩
    rw [Nat.zero_mul, offset_of_small (by decide), Nat.mul_zero]
    exact Nat.mul_pos (by positivity) (by decide)
  · rcases Nat.lt_or_ge (number * 10 ^ places) (10 ^ 17) with below | large
    · exact exists_roundsInteger_scaled few positive small value below
    · exact ⟨_, roundsInteger_large few value large⟩

/-! ## The text -/

theorem roundAt_quotient (magnitude : Magnitude) (places : Nat) :
    ((magnitude.numerator * Nat.pow 10 (-(-places : ℤ)).toNat : ℕ) : ℚ) /
        (magnitude.denominator * Nat.pow 10 (-places : ℤ).toNat : ℕ) =
      magnitude.value * (10 ^ places : ℕ) := by
  have behind : (-(-places : ℤ)).toNat = places := by omega
  have before : (-places : ℤ).toNat = 0 := by omega
  rw [behind, before, magnitude.value_eq_div, div_mul_eq_mul_div]
  simp

theorem roundAt_near (magnitude : Magnitude) (places : Nat) :
    |(roundAt (-places) magnitude.numerator magnitude.denominator : ℚ) -
      magnitude.value * (10 ^ places : ℕ)| ≤ 1 / 2 := by
  have divisor : 0 < magnitude.denominator * Nat.pow 10 (-places : ℤ).toNat :=
    Nat.mul_pos magnitude.denominator_pos (Nat.pow_pos (by decide))
  rw [← roundAt_quotient]
  exact roundEven_near _ divisor

theorem roundAt_of_value (value : magnitude.value = number) (places : Nat) :
    roundAt (-places) magnitude.numerator magnitude.denominator = number * 10 ^ places := by
  have divisor : 0 < magnitude.denominator * Nat.pow 10 (-places : ℤ).toNat :=
    Nat.mul_pos magnitude.denominator_pos (Nat.pow_pos (by decide))
  apply roundEven_of_near divisor
  rw [roundAt_quotient, value, Nat.cast_mul, sub_self, abs_zero]
  exact one_half_pos

theorem signText_append_cancel {first second : Bool} {text other : List Char}
    (unsigned : text.head? ≠ some '-') (otherUnsigned : other.head? ≠ some '-')
    (same : signText first ++ text = signText second ++ other) : text = other := by
  cases first <;> cases second
  · exact same
  · exact absurd (congrArg List.head? same) unsigned
  · exact absurd (congrArg List.head? same).symm otherUnsigned
  · exact (List.cons.inj same).2

/-- A number with the value of an integer is shown by its digits and by zeros exactly if rounding
keeps the integer. -/
theorem fixed_eq_iff {rounded : Magnitude}
    (roundsInteger : RoundsInteger number places magnitude rounded) {negative : Bool}
    (nonzero : negative = true → 0 < number) :
    fixed (.finite negative magnitude) places =
        signText negative ++ (decimalDigits number ++ pointed (List.replicate places '0')) ↔
      KeepsInteger number places := by
  obtain ⟨whole, fraction, written, placed, value⟩ := fixedText_split places rounded
  have zeros := arePlaced_zeros number places
  rw [fixed_of_rounded (roundsInteger.rounds negative) written placed,
    ← roundsInteger.value_eq_iff]
  constructor
  · -- The digits that are shown bring the rounded number close to the integer.
    intro same
    obtain ⟨rfl, rfl⟩ := placed.inj zeros
      (signText_append_cancel placed.head_ne_sign zeros.head_ne_sign same)
    rw [ofDigits_append, ofDigits_decimalDigits, ofDigits_zeros, List.length_replicate,
      Nat.add_zero, Nat.mul_comm] at value
    apply roundsInteger.value_eq_of_close
    have near := roundAt_near rounded places
    rwa [← value, Nat.cast_mul, ← sub_mul, abs_mul, Nat.abs_cast] at near
  · intro exact
    rw [fixedText, roundAt_of_value exact, positional_mul_pow] at written
    obtain ⟨rfl, rfl⟩ := zeros.inj placed written
    have signed : (negative && (decimalDigits number ++ List.replicate places '0').any (· != '0')) =
        negative := by
      cases negative with
      | false => rfl
      | true =>
        obtain ⟨first, rest, digits, leading⟩ := head_decimalDigits (nonzero rfl)
        simp [digits, leading]
    rw [signed]

/-! ## Integers -/

/-- Without places, with more than three, and as long as the product has 53 bits an integer is
kept. -/
theorem keepsInteger_of (small : number < 2 ^ 53)
    (region : places = 0 ∨ 3 < places ∨ number * 10 ^ places < 2 ^ 53) :
    KeepsInteger number places := by
  by_cases many : maxScaledPlaces < places
  · exact .inl many
  rcases Nat.lt_or_ge (number * 10 ^ places) (10 ^ 17) with below | large
  · refine .inr (.inr ?_)
    have none : offset (number * 10 ^ places) = 0 := by
      obtain rfl | several | product := region
      · exact offset_of_small (by simpa using small)
      · -- A power of ten has more factors of two than the last place of a product below `10^17`.
        have log : (number * 10 ^ places).log2 < 57 := by
          rcases Nat.eq_zero_or_pos (number * 10 ^ places) with zero | positive
          · rw [zero]
            decide
          · exact (Nat.log2_lt positive.ne').mpr (by omega)
        apply offset_of_dvd
        calc integerPlace (number * 10 ^ places) ∣ 2 ^ places := Nat.pow_dvd_pow 2 (by omega)
          _ ∣ 10 ^ places := pow_dvd_pow_of_dvd (by decide) places
          _ ∣ number * 10 ^ places := Nat.dvd_mul_left _ _
      · exact offset_of_small product
    rw [none, Nat.mul_zero]
    exact Nat.mul_pos (by positivity) (by positivity)
  · exact .inr (.inl large)

/-- An integer with a number of places. -/
def exactText (value : Int) (places : Nat) : String :=
  integerText value ++ .ofList (pointed (List.replicate places '0'))

theorem exactText_eq (value : Int) (places : Nat) :
    exactText value places = .ofList (signText (value < 0) ++
      (decimalDigits value.natAbs ++ pointed (List.replicate places '0'))) := by
  rw [exactText, integerText, ← String.ofList_append, List.append_assoc]
  simp only [signText, decide_eq_true_eq]

/-- An integer of 53 bits is shown exactly if and only if rounding keeps it, and that it does
without places, with more than three, and as long as the product has 53 bits too. -/
theorem formatInteger_places (value : Int) (small : value.natAbs < 2 ^ 53) (few : places < 100) :
    (formatInteger value (standardFormat 'F' (some places)) = .ok (exactText value places) ↔
      KeepsInteger value.natAbs places) ∧
    (places = 0 ∨ 3 < places ∨ value.natAbs * 10 ^ places < 2 ^ 53 →
      formatInteger value (standardFormat 'F' (some places)) = .ok (exactText value places)) := by
  have main : formatInteger value (standardFormat 'F' (some places)) =
      .ok (exactText value places) ↔ KeepsInteger value.natAbs places := by
    obtain ⟨magnitude, found, -⟩ := exists_integer small
    obtain ⟨rounded, rounds⟩ := exists_roundsInteger small found places
    have shown : formatInteger value (standardFormat 'F' (some places)) =
        .ok (.ofList (fixed (.finite (value < 0) magnitude) places)) := by
      have read : standardFormat? (standardFormat 'F' (some places)).toList =
          some ('F', some places) :=
        standardFormat?_standardFormat (by decide) (by simpa using few)
      have noInteger : integerLetter? value 'F' (some places) = none := rfl
      simp only [formatInteger, read, Option.bind_some, noInteger]
      rw [ofInt, ofRatio_of_nearest? _ found, formatNumber_standard _ (by decide) few]
      rfl
    rw [shown, exactText_eq, Except.ok.injEq, String.ofList_inj]
    refine fixed_eq_iff rounds fun negative => ?_
    exact Int.natAbs_pos.mpr (of_decide_eq_true negative).ne
  exact ⟨main, fun region => main.mpr (keepsInteger_of small region)⟩

theorem formatInteger_places_full :
    (9007199254740991 : Int).natAbs < 2 ^ 53 ∧
      formatInteger 9007199254740991 "F4" = .ok "9007199254740991.0000" := by
  have small : (9007199254740991 : Int).natAbs < 2 ^ 53 := by decide
  exact ⟨small, (formatInteger_places _ small (show 4 < 100 by decide)).2 (.inr (.inl (by decide)))⟩

/-- With one place the largest integer of 53 bits loses its last digit. -/
theorem formatInteger_places_rounded :
    (9007199254740991 : Int).natAbs < 2 ^ 53 ∧
      exactText 9007199254740991 1 = "9007199254740991.0" ∧
      formatInteger 9007199254740991 (standardFormat 'F' (some 1)) =
        .ok "9007199254740990.0" := by
  decide +kernel

end Number

end CreatureNaming
