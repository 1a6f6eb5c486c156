import CreatureNaming.Number.Format
import CreatureNaming.Number.Numeral
import CreatureNaming.Proofs.Number.Digits

/-! Formats for integers.

The letters D and X show an integer without loss: the one its sign and its digits, the other the
digits of its 64 bits, and both put zeros in front only up to the width that is asked for. So two
integers never look alike in one format.
-/

set_option autoImplicit false

namespace CreatureNaming.Number

open Binary64 (minInt64 maxInt64 signed)

variable {letter : Char} {precision : Option Nat} {value first second : Int}

/-! ## Standard formats -/

/-- The standard format of a letter and a precision. -/
def standardFormat (letter : Char) (precision : Option Nat) : String :=
  .ofList (letter :: (precision.map decimalDigits).getD [])

theorem standardFormat?_standardFormat (isLetter : letter.isAlpha = true)
    (few : ∀ places ∈ precision, places < 100) :
    standardFormat? (standardFormat letter precision).toList = some (letter, precision) := by
  cases precision with
  | none => simp [standardFormat, standardFormat?, isLetter]
  | some places =>
    have short : (decimalDigits places).length ≤ 2 :=
      length_decimalDigits_le (few places rfl) (by decide)
    have digits : (decimalDigits places).all Char.isDigit = true :=
      List.all_eq_true.mpr fun _ => isDigit_of_mem_decimalDigits
    simp [standardFormat, standardFormat?, isLetter, digits, decimalDigits_ne_nil, short]

theorem formatNumber_standard (value : Binary64) {places : Nat} (isLetter : letter.isAlpha = true)
    (few : places < 100) :
    formatNumber value (standardFormat letter (some places)) =
      (standardText value letter (some places) (standardFormat letter (some places))).map
        String.ofList := by
  have read : standardFormat? (standardFormat letter (some places)).toList =
      some (letter, some places) :=
    standardFormat?_standardFormat isLetter (by simpa using few)
  have text : (standardFormat letter (some places)).toList = letter :: decimalDigits places := by
    rw [standardFormat, String.toList_ofList]
    rfl
  rw [text] at read
  simp only [formatNumber, text, read, List.isEmpty_cons, Bool.false_eq_true, if_false]

theorem formatInteger_integerLetter {text : List Char} (isLetter : letter.isAlpha = true)
    (few : ∀ places ∈ precision, places < 100)
    (shown : integerLetter? value letter precision = some text) :
    formatInteger value (standardFormat letter precision) = .ok (.ofList text) := by
  simp only [formatInteger, standardFormat?_standardFormat isLetter few, Option.bind_some, shown]

/-! ## Decimal digits -/

theorem splitSign_signText {negative : Bool} {digits : List Char}
    (all : ∀ c ∈ digits, c.isDigit = true) :
    splitSign (signText negative ++ digits) = (negative, digits) := by
  cases negative with
  | true => rfl
  | false =>
    cases digits with
    | nil => rfl
    | cons c rest =>
      have digit := all c List.mem_cons_self
      rw [signText, if_neg Bool.false_ne_true, List.nil_append]
      apply splitSign.eq_3
      · rintro rest' same
        rw [(List.cons.inj same).1] at digit
        cases digit
      · rintro rest' same
        rw [(List.cons.inj same).1] at digit
        cases digit

theorem formatInteger_decimal (value : Int) (few : ∀ places ∈ precision, places < 100) :
    ∃ digits,
      formatInteger value (standardFormat 'D' precision) =
        .ok (.ofList (signText (value < 0) ++ digits)) ∧
      (∀ c ∈ digits, c.isDigit = true) ∧ FillsWidth (precision.getD 0) digits ∧
      signed (value < 0) (ofDigits digits) = value := by
  refine ⟨zeroPad (precision.getD 0) (decimalDigits value.natAbs),
    formatInteger_integerLetter (by decide) few rfl, fun c => isDigit_of_mem_zeroPad,
    fillsWidth_decimalDigits _ _, ?_⟩
  rw [ofDigits_zeroPad, ofDigits_decimalDigits, signed]
  simp only [decide_eq_true_eq]
  omega

theorem formatInteger_decimal_inj (few : ∀ places ∈ precision, places < 100)
    (same : formatInteger first (standardFormat 'D' precision) =
      formatInteger second (standardFormat 'D' precision)) : first = second := by
  obtain ⟨firstDigits, shownFirst, allFirst, -, valueFirst⟩ := formatInteger_decimal first few
  obtain ⟨secondDigits, shownSecond, allSecond, -, valueSecond⟩ := formatInteger_decimal second few
  rw [shownFirst, shownSecond] at same
  have texts := String.ofList_injective (Except.ok.inj same)
  have read := congrArg splitSign texts
  rw [splitSign_signText allFirst, splitSign_signText allSecond] at read
  obtain ⟨signs, digits⟩ := Prod.mk.inj read
  rw [← valueFirst, signs, digits, valueSecond]

/-! ## Hexadecimal digits -/

def hexLetter (upper : Bool) : Char := if upper then 'X' else 'x'

theorem formatInteger_hex (value : Int) (upper : Bool)
    (few : ∀ places ∈ precision, places < 100) :
    ∃ digits,
      formatInteger value (standardFormat (hexLetter upper) precision) = .ok (.ofList digits) ∧
      (∀ c ∈ digits, IsHexDigit upper c) ∧ FillsWidth (precision.getD 0) digits ∧
      (ofHexDigits digits : Int) = value % UInt64.size := by
  refine ⟨zeroPad (precision.getD 0) (casedHexDigits upper (value % UInt64.size).toNat),
    formatInteger_integerLetter ?_ few ?_, ?_, fillsWidth_casedHexDigits _ _ _, ?_⟩
  · cases upper <;> decide
  · cases upper <;> rfl
  · intro c member
    obtain rfl | digit := mem_zeroPad member
    · exact .inl rfl
    · exact isHexDigit_of_mem_casedHexDigits _ _ c digit
  · rw [ofHexDigits_zeroPad, ofHexDigits_casedHexDigits]
    exact Int.toNat_of_nonneg (Int.emod_nonneg _ (by decide))

theorem formatInteger_hex_congr (upper : Bool) (few : ∀ places ∈ precision, places < 100)
    (same : formatInteger first (standardFormat (hexLetter upper) precision) =
      formatInteger second (standardFormat (hexLetter upper) precision)) :
    first % UInt64.size = second % UInt64.size := by
  obtain ⟨firstDigits, shownFirst, -, -, valueFirst⟩ := formatInteger_hex first upper few
  obtain ⟨secondDigits, shownSecond, -, -, valueSecond⟩ := formatInteger_hex second upper few
  rw [shownFirst, shownSecond] at same
  rw [← valueFirst, String.ofList_injective (Except.ok.inj same), valueSecond]

/-- Integers of 64 bits are apart in their 64 bits. -/
theorem eq_of_emod_size (firstLow : minInt64 ≤ first) (firstHigh : first ≤ maxInt64)
    (secondLow : minInt64 ≤ second) (secondHigh : second ≤ maxInt64)
    (same : first % UInt64.size = second % UInt64.size) : first = second := by
  simp only [minInt64, maxInt64, UInt64.size] at *
  omega

/-- D shows the sign and the decimal digits of an integer, X its value modulo `2^64` in hexadecimal
digits. The digits fill the width and have no other zero in front, and integers of 64 bits that
look alike in one format are the same. -/
theorem formatInteger_lossless (precision : Option Nat)
    (few : ∀ places ∈ precision, places < 100) :
    (∀ value : Int, ∃ digits,
      formatInteger value (standardFormat 'D' precision) =
        .ok (.ofList (signText (value < 0) ++ digits)) ∧
      (∀ c ∈ digits, c.isDigit = true) ∧ FillsWidth (precision.getD 0) digits ∧
      signed (value < 0) (ofDigits digits) = value) ∧
    (∀ (value : Int) (upper : Bool), ∃ digits,
      formatInteger value (standardFormat (hexLetter upper) precision) = .ok (.ofList digits) ∧
      (∀ c ∈ digits, IsHexDigit upper c) ∧ FillsWidth (precision.getD 0) digits ∧
      (ofHexDigits digits : Int) = value % UInt64.size) ∧
    ∀ letter ∈ ['D', 'X', 'x'], ∀ first second : Int,
      minInt64 ≤ first → first ≤ maxInt64 → minInt64 ≤ second → second ≤ maxInt64 →
      formatInteger first (standardFormat letter precision) =
        formatInteger second (standardFormat letter precision) →
      first = second := by
  refine ⟨fun value => formatInteger_decimal value few,
    fun value upper => formatInteger_hex value upper few, ?_⟩
  intro letter listed first second firstLow firstHigh secondLow secondHigh same
  have apart := eq_of_emod_size firstLow firstHigh secondLow secondHigh
  simp only [List.mem_cons, List.not_mem_nil, or_false] at listed
  obtain rfl | rfl | rfl := listed
  · exact formatInteger_decimal_inj few same
  · exact apart (formatInteger_hex_congr true few same)
  · exact apart (formatInteger_hex_congr false few same)

theorem formatInteger_lossless_least :
    (∃ digits, formatInteger minInt64 "D20" = .ok (.ofList ('-' :: digits)) ∧
      20 ≤ digits.length ∧ ofDigits digits = 0x8000000000000000) ∧
    (∃ digits, formatInteger minInt64 "X20" = .ok (.ofList digits) ∧
      20 ≤ digits.length ∧ ofHexDigits digits = 0x8000000000000000) ∧
    formatInteger minInt64 "x20" ≠ formatInteger maxInt64 "x20" := by
  have few : ∀ places ∈ some 20, places < 100 := by decide
  obtain ⟨decimal, hexadecimal, apart⟩ := formatInteger_lossless (some 20) few
  refine ⟨?_, ?_, fun same => ?_⟩
  · obtain ⟨digits, shown, -, fills, value⟩ := decimal minInt64
    refine ⟨digits, shown, fills.1, ?_⟩
    rw [signed, if_pos (by decide)] at value
    exact_mod_cast neg_inj.mp value
  · obtain ⟨digits, shown, -, fills, value⟩ := hexadecimal minInt64 true
    refine ⟨digits, shown, fills.1, ?_⟩
    rw [show minInt64 % UInt64.size = 0x8000000000000000 by decide] at value
    exact_mod_cast value
  · exact absurd (apart 'x' (by decide) _ _ (by decide) (by decide) (by decide) (by decide) same)
      (by decide)

end CreatureNaming.Number
