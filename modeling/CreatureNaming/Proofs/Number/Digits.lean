import CreatureNaming.Number.Digits
import CreatureNaming.Text.Ascii
import Mathlib.Data.Nat.Digits.Defs

/-! Digits of natural numbers.

The digits of a number have no zero in front, and zeros that are put in front of them do not change
what they stand for. Both hold for decimal and for hexadecimal digits.
-/

set_option autoImplicit false

namespace CreatureNaming.Number

variable {upper : Bool} {number width : Nat} {c : Char} {digits : List Char}

theorem isDigit_of_mem_decimalDigits (member : c ∈ decimalDigits number) : c.isDigit = true :=
  Nat.isDigit_of_mem_toDigits (by decide) (by decide) member

theorem decimalDigits_ne_nil (number : Nat) : decimalDigits number ≠ [] := Nat.toDigits_ne_nil

/-- Only the digits of zero begin with a zero. -/
theorem head_decimalDigits (positive : 0 < number) :
    ∃ first rest, decimalDigits number = first :: rest ∧ first ≠ '0' := by
  induction number using Nat.strongRecOn with
  | ind number ih =>
    rw [decimalDigits, Nat.toDigits_eq_if (by decide)]
    split
    · refine ⟨_, [], rfl, ?_⟩
      intro zero
      rw [Nat.digitChar_eq_zero] at zero
      omega
    · obtain ⟨first, rest, digits, nonzero⟩ := ih (number / 10) (by omega) (by omega)
      rw [decimalDigits] at digits
      rw [digits]
      exact ⟨first, _, rfl, nonzero⟩

theorem length_decimalDigits_le (few : number < 10 ^ width) (positive : 0 < width) :
    (decimalDigits number).length ≤ width :=
  Nat.toDigits_length 10 number width positive few

/-! ## Zeros in front -/

theorem length_zeroPad (width : Nat) (digits : List Char) :
    (zeroPad width digits).length = max width digits.length := by
  rw [zeroPad, List.length_append, List.length_replicate]
  omega

theorem zeroPad_of_le (wide : width ≤ digits.length) : zeroPad width digits = digits := by
  rw [zeroPad, Nat.sub_eq_zero_of_le wide]
  rfl

theorem mem_zeroPad (member : c ∈ zeroPad width digits) : c = '0' ∨ c ∈ digits :=
  (List.mem_append.mp member).imp_left List.eq_of_mem_replicate

theorem isDigit_of_mem_zeroPad (member : c ∈ zeroPad width (decimalDigits number)) :
    c.isDigit = true := by
  obtain rfl | digit := mem_zeroPad member
  · rfl
  · exact isDigit_of_mem_decimalDigits digit

/-- At least `width` digits and at least one, with no more zeros in front than that takes. -/
def FillsWidth (width : Nat) (digits : List Char) : Prop :=
  max width 1 ≤ digits.length ∧ (max width 1 < digits.length → digits.head? ≠ some '0')

theorem fillsWidth_zeroPad (nonempty : digits ≠ [])
    (leading : digits ≠ ['0'] → digits.head? ≠ some '0') :
    FillsWidth width (zeroPad width digits) := by
  have one : 1 ≤ digits.length := List.length_pos_iff.mpr nonempty
  refine ⟨by rw [length_zeroPad]; omega, fun longer => ?_⟩
  rw [length_zeroPad] at longer
  -- Only digits that reach beyond the width make it longer, and then no zero is put in front.
  rw [zeroPad_of_le (by omega)]
  apply leading
  rintro rfl
  rw [List.length_singleton] at longer
  omega

theorem fillsWidth_decimalDigits (width number : Nat) :
    FillsWidth width (zeroPad width (decimalDigits number)) := by
  refine fillsWidth_zeroPad (decimalDigits_ne_nil number) fun other => ?_
  have positive : 0 < number := by
    apply Nat.pos_of_ne_zero
    rintro rfl
    exact other rfl
  obtain ⟨first, rest, written, nonzero⟩ := head_decimalDigits positive
  rw [written]
  simpa using nonzero

/-! ## Values of decimal digits -/

theorem ofDigits_eq (digits : List Char) : ofDigits digits = Nat.ofDigitChars 10 digits 0 := by
  simp only [ofDigits, Nat.ofDigitChars_eq_foldl, Nat.mul_comm]

@[simp]
theorem ofDigits_decimalDigits (number : Nat) : ofDigits (decimalDigits number) = number := by
  rw [ofDigits_eq]
  exact Nat.ofDigitChars_ten_toDigits

theorem ofDigits_append (first second : List Char) :
    ofDigits (first ++ second) = 10 ^ second.length * ofDigits first + ofDigits second := by
  rw [ofDigits_eq, Nat.ofDigitChars_append, Nat.ofDigitChars_eq_ofDigitChars_zero, ofDigits_eq,
    ofDigits_eq]

@[simp]
theorem ofDigits_zeros (count : Nat) : ofDigits (List.replicate count '0') = 0 := by
  rw [ofDigits_eq, Nat.ofDigitChars_replicate_zero, Nat.mul_zero]

/-- Digits that stand for zero are zeros. -/
theorem any_nonzero_of_ofDigits (all : ∀ c ∈ digits, c.isDigit = true)
    (zero : ofDigits digits = 0) : digits.any (· != '0') = false := by
  induction digits with
  | nil => rfl
  | cons c rest ih =>
    obtain ⟨digit, all⟩ := List.forall_mem_cons.mp all
    rw [← List.singleton_append, ofDigits_append, Nat.add_eq_zero_iff, Nat.mul_eq_zero] at zero
    have first : c.toNat - '0'.toNat = 0 := by
      simpa [ofDigits] using zero.1
    have same : c = '0' := Char.toNat_inj.mp
      (Nat.le_antisymm (Nat.sub_eq_zero_iff_le.mp first) (Char.isDigit_iff_toNat.mp digit).1)
    rw [List.any_cons, ih all zero.2, same]
    rfl

@[simp]
theorem ofDigits_zeroPad (width : Nat) (digits : List Char) :
    ofDigits (zeroPad width digits) = ofDigits digits := by
  rw [zeroPad, ofDigits_append, ofDigits_zeros, Nat.mul_zero, Nat.zero_add]

/-! ## Digits before and behind a point -/

/-- A point in front of the digits, if there are any. -/
def pointed : List Char → List Char
  | [] => []
  | digits => '.' :: digits

theorem pointed_of_ne_nil (some : digits ≠ []) : pointed digits = '.' :: digits := by
  cases digits with
  | nil => exact absurd rfl some
  | cons first rest => rfl

theorem mem_pointed (member : c ∈ pointed digits) : c = '.' ∨ c ∈ digits := by
  cases digits with
  | nil => cases member
  | cons first rest => exact List.mem_cons.mp member

/-- The parts of a text before its point and from the point on. -/
theorem split_point {whole tail : List Char} (noPoint : ∀ c ∈ whole, c ≠ '.')
    (ends : ∀ c ∈ tail.head?, c = '.') :
    (whole ++ tail).takeWhile (· != '.') = whole ∧ (whole ++ tail).dropWhile (· != '.') = tail := by
  replace noPoint : ∀ c ∈ whole, (c != '.') = true := by simpa using noPoint
  rw [List.takeWhile_append_of_pos noPoint, List.dropWhile_append_of_pos noPoint]
  cases tail with
  | nil => simp
  | cons c rest => simp [ends c rfl]

/-- The digits of a number with a number of places behind the point. -/
structure ArePlaced (places : Nat) (whole fraction : List Char) : Prop where
  nonempty : whole ≠ []
  wholeDigits : ∀ c ∈ whole, c.isDigit = true
  leading : ∀ second rest, whole ≠ '0' :: second :: rest
  fractionDigits : ∀ c ∈ fraction, c.isDigit = true
  length : fraction.length = places

theorem split_pointed {whole : List Char} (noPoint : ∀ c ∈ whole, c ≠ '.')
    (fraction : List Char) :
    (whole ++ pointed fraction).takeWhile (· != '.') = whole ∧
      (whole ++ pointed fraction).dropWhile (· != '.') = pointed fraction :=
  split_point noPoint (by cases fraction <;> simp [pointed])

theorem drop_pointed (digits : List Char) : (pointed digits).drop 1 = digits := by
  cases digits <;> rfl

theorem ne_point_of_isDigit (digit : c.isDigit = true) : c ≠ '.' := by
  rintro rfl
  cases digit

theorem ArePlaced.noPoint {places : Nat} {whole fraction : List Char}
    (placed : ArePlaced places whole fraction) : ∀ c ∈ whole, c ≠ '.' :=
  fun c member => ne_point_of_isDigit (placed.wholeDigits c member)

theorem ArePlaced.unsigned {places : Nat} {whole fraction : List Char}
    (placed : ArePlaced places whole fraction) : whole.head? ≠ some '-' := by
  intro sign
  cases placed.wholeDigits '-' (List.mem_of_head? sign)

theorem ArePlaced.head_ne_sign {places : Nat} {whole fraction : List Char}
    (placed : ArePlaced places whole fraction) : (whole ++ pointed fraction).head? ≠ some '-' := by
  obtain ⟨first, rest, rfl⟩ := List.exists_cons_of_ne_nil placed.nonempty
  exact placed.unsigned

/-- The digits before and behind a point can be read off. -/
theorem ArePlaced.inj {places otherPlaces : Nat}
    {whole fraction otherWhole otherFraction : List Char} (placed : ArePlaced places whole fraction)
    (otherPlaced : ArePlaced otherPlaces otherWhole otherFraction)
    (same : whole ++ pointed fraction = otherWhole ++ pointed otherFraction) :
    whole = otherWhole ∧ fraction = otherFraction := by
  obtain ⟨before, behind⟩ := split_pointed placed.noPoint fraction
  obtain ⟨otherBefore, otherBehind⟩ := split_pointed otherPlaced.noPoint otherFraction
  rw [same] at before behind
  refine ⟨before.symm.trans otherBefore, ?_⟩
  rw [← drop_pointed fraction, ← behind, otherBehind, drop_pointed]

theorem leading_decimalDigits (number : Nat) (second : Char) (rest : List Char) :
    decimalDigits number ≠ '0' :: second :: rest := by
  intro zero
  rcases Nat.eq_zero_or_pos number with rfl | positive
  · cases zero
  · obtain ⟨first, others, written, leading⟩ := head_decimalDigits positive
    rw [written] at zero
    exact leading (List.cons.inj zero).1

theorem arePlaced_decimalDigits (number : Nat) : ArePlaced 0 (decimalDigits number) [] :=
  ⟨decimalDigits_ne_nil number, fun _ => isDigit_of_mem_decimalDigits, leading_decimalDigits number,
    nofun, rfl⟩

theorem arePlaced_zeros (number places : Nat) :
    ArePlaced places (decimalDigits number) (List.replicate places '0') :=
  ⟨decimalDigits_ne_nil number, fun _ => isDigit_of_mem_decimalDigits, leading_decimalDigits number,
    fun _ member => List.eq_of_mem_replicate member ▸ rfl, List.length_replicate⟩

/-- Zeros are put in front only to make room for one digit before the point. -/
theorem leading_zeroPad {places : Nat} (second : Char) (rest : List Char) :
    (zeroPad (places + 1) (decimalDigits number)).take
      ((zeroPad (places + 1) (decimalDigits number)).length - places) ≠ '0' :: second :: rest := by
  intro zero
  have room := congrArg List.length zero
  rw [List.length_take, length_zeroPad, List.length_cons, List.length_cons] at room
  rw [zeroPad_of_le (by omega)] at zero
  refine leading_decimalDigits number second
    (rest ++ (decimalDigits number).drop ((decimalDigits number).length - places)) ?_
  rw [← List.cons_append, ← List.cons_append, ← zero, List.take_append_drop]

/-- A number that is written out in full is split by its point, if it has one, into its digits. -/
theorem positional_split (number : Nat) (exponent : Int) :
    ∃ whole fraction, positional number exponent = whole ++ pointed fraction ∧
      ArePlaced (-exponent).toNat whole fraction ∧
      ofDigits (whole ++ fraction) = number * 10 ^ exponent.toNat := by
  rw [positional]
  split
  · next up =>
    obtain ⟨power, rfl⟩ := Int.eq_ofNat_of_zero_le up
    have places : (-(power : Int)).toNat = 0 := by omega
    rw [places, Int.toNat_natCast]
    split
    · next zero =>
      subst zero
      exact ⟨['0'], [], rfl, arePlaced_decimalDigits 0, by rw [Nat.zero_mul]; rfl⟩
    · next nonzero =>
      obtain ⟨first, others, written, leading⟩ := head_decimalDigits (Nat.pos_of_ne_zero nonzero)
      refine ⟨_, [], (List.append_nil _).symm, ⟨?_, ?_, ?_, nofun, rfl⟩, ?_⟩
      · simp [decimalDigits_ne_nil]
      · intro c member
        rcases List.mem_append.mp member with digit | zero
        · exact isDigit_of_mem_decimalDigits digit
        · rw [List.eq_of_mem_replicate zero]
          rfl
      · intro second rest zero
        rw [written] at zero
        exact leading (List.cons.inj zero).1
      · rw [List.append_nil, ofDigits_append, ofDigits_zeros, ofDigits_decimalDigits,
          List.length_replicate, Nat.add_zero, Nat.mul_comm]
  · next down =>
    -- The padding leaves one digit before the point, so both sides of it have digits.
    have whole : exponent.toNat = 0 := by omega
    rw [whole, Nat.pow_zero, Nat.mul_one]
    generalize amount : (-exponent).toNat = places
    have pointedPlaces : 0 < places := by omega
    have room := length_zeroPad (places + 1) (decimalDigits number)
    refine ⟨_, _, congrArg _ (pointed_of_ne_nil ?_).symm, ⟨?_, ?_, leading_zeroPad, ?_, ?_⟩, ?_⟩
    · apply List.ne_nil_of_length_pos
      rw [List.length_drop]
      omega
    · apply List.ne_nil_of_length_pos
      rw [List.length_take]
      omega
    · intro c member
      exact isDigit_of_mem_zeroPad (List.mem_of_mem_take member)
    · intro c member
      exact isDigit_of_mem_zeroPad (List.mem_of_mem_drop member)
    · rw [List.length_drop]
      omega
    · rw [List.take_append_drop, ofDigits_zeroPad, ofDigits_decimalDigits]

theorem decimalDigits_mul_pow (positive : 0 < number) (places : Nat) :
    decimalDigits (number * 10 ^ places) = decimalDigits number ++ List.replicate places '0' := by
  induction places with
  | zero => simp
  | succ places ih =>
    have more : number * 10 ^ (places + 1) = 10 * (number * 10 ^ places) + 0 := by
      rw [Nat.pow_succ, Nat.add_zero, ← Nat.mul_assoc, Nat.mul_comm 10]
    have some : 0 < number * 10 ^ places := Nat.mul_pos positive (Nat.pow_pos (by decide))
    rw [more, decimalDigits, ← Nat.toDigits_append_toDigits (by decide) some (by decide),
      ← decimalDigits, ih, List.append_assoc, List.replicate_succ']
    rfl

theorem zeroPad_mul_pow (number places : Nat) :
    zeroPad (places + 1) (decimalDigits (number * 10 ^ places)) =
      decimalDigits number ++ List.replicate places '0' := by
  rcases Nat.eq_zero_or_pos number with rfl | positive
  · -- The digits of zero do not grow with the places, so the zeros come from the padding.
    have one : decimalDigits 0 = ['0'] := rfl
    rw [Nat.zero_mul, one, zeroPad, List.length_singleton, Nat.add_sub_cancel,
      List.singleton_append, ← List.replicate_succ, List.replicate_succ']
  · rw [decimalDigits_mul_pow positive, zeroPad_of_le]
    have one := List.length_pos_iff.mpr (decimalDigits_ne_nil number)
    rw [List.length_append, List.length_replicate]
    omega

/-- An integer that is written with a number of places has zeros behind the point. -/
theorem positional_mul_pow (number places : Nat) :
    positional (number * 10 ^ places) (-places) =
      decimalDigits number ++ pointed (List.replicate places '0') := by
  cases places with
  | zero =>
    rw [Nat.pow_zero, Nat.mul_one, positional, if_pos (by decide)]
    split
    · next zero =>
      rw [zero]
      rfl
    · rfl
  | succ places =>
    have behind : (-(-((places + 1 : Nat) : Int))).toNat = places + 1 := by omega
    have whole : (decimalDigits number ++ List.replicate (places + 1) '0').length - (places + 1) =
        (decimalDigits number).length := by
      rw [List.length_append, List.length_replicate, Nat.add_sub_cancel]
    have down : ¬ (0 : Int) ≤ -((places + 1 : Nat) : Int) := by omega
    simp only [positional, if_neg down, behind, zeroPad_mul_pow, whole, List.take_left,
      List.drop_left]
    rfl

/-! ## Hexadecimal digits -/

/-- A digit, or one of the letters A to F in the case that is asked for. -/
def IsHexDigit (upper : Bool) (c : Char) : Prop :=
  c.isDigit = true ∨ if upper then 'A' ≤ c ∧ c ≤ 'F' else 'a' ≤ c ∧ c ≤ 'f'

instance (upper : Bool) (c : Char) : Decidable (IsHexDigit upper c) :=
  inferInstanceAs (Decidable (_ ∨ _))

/-- The number that hexadecimal digits of either case stand for. -/
def ofHexDigits (digits : List Char) : Nat :=
  digits.foldl (fun number c => number * 16 + (Text.hexValue? c).getD 0) 0

/-- The hexadecimal digits of a number, the letters in the case that is asked for. -/
def casedHexDigits (upper : Bool) (number : Nat) : List Char :=
  if upper then (hexDigits number).map Char.toUpper else hexDigits number

def casedHexDigit (upper : Bool) (value : Nat) : Char :=
  if upper then value.digitChar.toUpper else value.digitChar

theorem isHexDigit_casedHexDigit :
    ∀ upper, ∀ value < 16, IsHexDigit upper (casedHexDigit upper value) := by decide

theorem hexValue?_casedHexDigit :
    ∀ upper, ∀ value < 16, Text.hexValue? (casedHexDigit upper value) = some value := by decide

theorem casedHexDigit_eq_zero :
    ∀ upper, ∀ value < 16, casedHexDigit upper value = '0' → value = 0 := by decide

theorem casedHexDigits_eq (upper : Bool) (number : Nat) :
    casedHexDigits upper number =
      if number < 16 then [casedHexDigit upper number]
      else casedHexDigits upper (number / 16) ++ [casedHexDigit upper (number % 16)] := by
  have split := Nat.toDigits_eq_if (n := number) (b := 16) (by decide)
  cases upper <;> simp only [casedHexDigits, hexDigits, casedHexDigit, split] <;> split_ifs <;> simp

/-- The digits of a number are those of its sixteenth part and one more. -/
theorem casedHexDigits_induction {P : Nat → List Char → Prop}
    (single : ∀ value < 16, P value [casedHexDigit upper value])
    (more : ∀ number digits, ∀ value < 16, 0 < number → P number digits →
      P (number * 16 + value) (digits ++ [casedHexDigit upper value]))
    (number : Nat) : P number (casedHexDigits upper number) := by
  induction number using Nat.strongRecOn with
  | ind number ih =>
    rw [casedHexDigits_eq]
    split
    · next small => exact single number small
    · next large =>
      have step := more (number / 16) _ (number % 16) (Nat.mod_lt _ (by decide)) (by omega)
        (ih (number / 16) (by omega))
      rwa [Nat.div_add_mod'] at step

theorem isHexDigit_of_mem_casedHexDigits (upper : Bool) (number : Nat) :
    ∀ c ∈ casedHexDigits upper number, IsHexDigit upper c := by
  apply casedHexDigits_induction (P := fun _ digits => ∀ c ∈ digits, IsHexDigit upper c)
  · intro value small
    simpa using isHexDigit_casedHexDigit upper value small
  · intro number digits value small _ all
    rw [List.forall_mem_append, List.forall_mem_singleton]
    exact ⟨all, isHexDigit_casedHexDigit upper value small⟩

theorem head_casedHexDigits (upper : Bool) (number : Nat) :
    ∃ first rest, casedHexDigits upper number = first :: rest ∧ (first = '0' → number = 0) := by
  apply casedHexDigits_induction (P := fun number digits =>
    ∃ first rest, digits = first :: rest ∧ (first = '0' → number = 0))
  · intro value small
    exact ⟨_, [], rfl, casedHexDigit_eq_zero upper value small⟩
  · rintro number _ value small positive ⟨first, rest, rfl, leading⟩
    refine ⟨first, _, rfl, fun zero => ?_⟩
    have := leading zero
    omega

@[simp]
theorem ofHexDigits_casedHexDigits (upper : Bool) (number : Nat) :
    ofHexDigits (casedHexDigits upper number) = number := by
  apply casedHexDigits_induction (P := fun number digits => ofHexDigits digits = number)
  · intro value small
    simp [ofHexDigits, hexValue?_casedHexDigit upper value small]
  · intro number digits value small _ same
    rw [ofHexDigits] at same
    rw [ofHexDigits, List.foldl_append, same, List.foldl_cons, List.foldl_nil,
      hexValue?_casedHexDigit upper value small, Option.getD_some]

@[simp]
theorem ofHexDigits_zeroPad (width : Nat) (digits : List Char) :
    ofHexDigits (zeroPad width digits) = ofHexDigits digits := by
  rw [zeroPad]
  induction width - digits.length with
  | zero => rfl
  | succ count ih => exact ih

theorem fillsWidth_casedHexDigits (upper : Bool) (width number : Nat) :
    FillsWidth width (zeroPad width (casedHexDigits upper number)) := by
  obtain ⟨first, rest, written, leading⟩ := head_casedHexDigits upper number
  refine fillsWidth_zeroPad (by simp [written]) fun other => ?_
  rintro zero
  rw [written] at zero
  obtain rfl := leading (Option.some.inj zero)
  cases upper <;> exact other rfl

end CreatureNaming.Number
