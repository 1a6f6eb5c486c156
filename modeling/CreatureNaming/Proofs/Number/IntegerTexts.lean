import CreatureNaming.Proofs.Number.Int64
import CreatureNaming.Proofs.Number.Integers
import CreatureNaming.Proofs.Number.Overflow
import CreatureNaming.Proofs.Number.Written

/-! Integers that are read as numbers.

An integer beyond 64 bits is read as the number nearest to it, if there is one, and then cut off at
the limits of 64 bits. Rounding does not lead below `2^63` from above it, so what results is the
limit that the integer is beyond.
-/

set_option autoImplicit false

namespace CreatureNaming.Number

open Binary64 (IsInt64 Magnitude clampInt64 leastInfinite nearest? signed)

variable {text : String}

namespace IntegerText

variable (written : IntegerText)

/-- An integer as a numeral without a point and without a power. -/
def numeralText : NumeralText where
  sign := written.sign
  whole := written.digits
  fraction := none
  power := none
  wholeDigits := written.allDigits
  fractionDigits := nofun
  nonempty := by simpa using written.nonempty

theorem chars_numeralText : written.numeralText.chars = written.chars := by
  simp [numeralText, NumeralText.chars, NumeralText.fractionChars, NumeralText.powerChars, chars]

/-- An integer is read as the quotient by one that is nearest to it. -/
theorem value_numeralText :
    written.numeralText.value = .ofRatio written.sign.negative (ofDigits written.digits) 1 := by
  have numeral : written.numeralText.numeral = ⟨written.sign.negative, written.digits, 0⟩ := by
    simp [numeralText, NumeralText.numeral]
  rw [NumeralText.value, numeral, Numeral.toBinary64]
  dsimp only
  split_ifs with zero small large
  · rw [zero]
    rfl
  · omega
  · omega
  · simp

theorem natAbs_value : written.value.natAbs = ofDigits written.digits := by
  rw [value, signed]
  split_ifs <;> omega

end IntegerText

theorem readInt64?_chars (written : IntegerText) :
    readInt64? (.ofList written.chars) =
      if IsInt64 written.value then some written.value else none := by
  rw [readInt64?, String.toList_ofList, signedDigits?_chars, Option.filter_some]
  simp only [Bool.and_eq_true, decide_eq_true_eq]
  rfl

theorem read?_chars (written : IntegerText) :
    read? (.ofList written.chars) =
      some (.ofRatio written.sign.negative (ofDigits written.digits) 1) := by
  rw [read?, String.toList_ofList, ← written.chars_numeralText, numeral?_chars]
  exact congrArg some written.value_numeralText

/-- An integer with blanks around it is read as a finite number if there is one that is nearest. -/
theorem readFinite?_integer {written : IntegerText}
    (trimmed : Text.trim text = .ofList written.chars) :
    readFinite? text =
      (nearest? (ofDigits written.digits) 1).map (.finite written.sign.negative) := by
  rw [readFinite?, trimmed, read?_chars, Binary64.ofRatio]
  cases nearest? (ofDigits written.digits) 1 <;> rfl

/-- The number nearest to an integer beyond 64 bits is cut off at the limit that the integer is
beyond. -/
theorem roundToInt_integer {written : IntegerText} {magnitude : Magnitude}
    (found : nearest? (ofDigits written.digits) 1 = some magnitude)
    (beyond : ¬IsInt64 written.value) :
    (Binary64.finite written.sign.negative magnitude).roundToInt = clampInt64 written.value := by
  refine Binary64.clampInt64_signed beyond fun large => Magnitude.le_roundUp ?_
  have below : ((1 : ℕ) : ℚ) * 2 ^ (63 : ℤ) ≤ ofDigits written.digits / (1 : ℕ) := by
    rw [Nat.cast_one, one_mul, div_one]
    exact_mod_cast large
  have above := Binary64.le_value Nat.one_pos found (by decide) (by decide) below
  rw [Nat.cast_one, one_mul] at above
  exact_mod_cast above

/-- Integers of 64 bits are below the limit of the infinite numbers. -/
theorem natAbs_lt_leastInfinite {value : Int} (held : IsInt64 value) :
    value.natAbs < leastInfinite := by
  have small : value.natAbs ≤ 2 ^ 63 := by
    unfold IsInt64 Binary64.minInt64 Binary64.maxInt64 at held
    omega
  exact Nat.lt_of_le_of_lt small (Binary64.two_pow_lt_limit (by decide))

/-! ## Integers as they are shown -/

/-- The format of the letter D alone. -/
theorem standardFormat_letterD : standardFormat 'D' none = "D" := rfl

theorem formatInteger_letterD (value : Int) : formatInteger value "D" = .ok (integerText value) := by
  have shown : formatInteger value "D" = .ok (.ofList (decimalText value 0)) := by
    rw [← standardFormat_letterD]
    exact formatInteger_integerLetter (by decide) nofun rfl
  rw [shown, integerText, decimalText, zeroPad_of_le (Nat.zero_le _), signText]
  simp only [decide_eq_true_eq]

theorem integerText_inj {first second : Int} (same : integerText first = integerText second) :
    first = second := by
  have formats : formatInteger first (standardFormat 'D' none) =
      formatInteger second (standardFormat 'D' none) := by
    rw [standardFormat_letterD, formatInteger_letterD, formatInteger_letterD, same]
  have noPrecision : ∀ places ∈ (none : Option Nat), places < 100 := nofun
  exact formatInteger_decimal_inj noPrecision formats

/-- A decimal text begins with a minus sign or a digit. -/
theorem head_integerText (value : Int) :
    ∃ c rest, (integerText value).toList = c :: rest ∧ (c = '-' ∨ c.isDigit = true) := by
  obtain ⟨c, rest, same⟩ := List.exists_cons_of_ne_nil (decimalDigits_ne_nil value.natAbs)
  have digit : c.isDigit = true := isDigit_of_mem_decimalDigits (same ▸ List.mem_cons_self)
  rw [integerText, String.toList_ofList, same]
  split_ifs
  · exact ⟨'-', c :: rest, rfl, .inl rfl⟩
  · exact ⟨c, rest, rfl, .inr digit⟩

end CreatureNaming.Number
