import CreatureNaming.Number.Numeral
import CreatureNaming.Proofs.Text.Runs

/-! Numerals as they are written.

An integer is written as an optional sign and digits, and a numeral as an optional sign, digits
with an optional point among them, and an optional power of ten. These texts and no others are
read, each as the value of what is written.
-/

set_option autoImplicit false

namespace CreatureNaming.Number

open Text (StopsRun run_append exists_run)

variable {text rest digits : List Char}

inductive Sign where
  | none
  | plus
  | minus
  deriving DecidableEq, Repr

theorem ne_sign_of_isDigit {c : Char} (digit : c.isDigit = true) : c ≠ '-' ∧ c ≠ '+' := by
  constructor <;> rintro rfl <;> cases digit

namespace Sign

def chars : Sign → List Char
  | none => []
  | plus => ['+']
  | minus => ['-']

def negative : Sign → Bool
  | minus => true
  | _ => false

/-- A text does not begin with a sign. -/
def Unsigned (rest : List Char) : Prop := ∀ c ∈ rest.head?, c ≠ '-' ∧ c ≠ '+'

theorem splitSign_append (sign : Sign) (unsigned : Unsigned rest) :
    splitSign (sign.chars ++ rest) = (sign.negative, rest) := by
  cases sign with
  | plus | minus => rfl
  | none =>
    cases rest with
    | nil => rfl
    | cons c rest =>
      obtain ⟨notMinus, notPlus⟩ := unsigned c rfl
      exact splitSign.eq_3 _ (by simp [chars, notMinus]) (by simp [chars, notPlus])

theorem exists_splitSign (text : List Char) :
    ∃ sign : Sign, text = sign.chars ++ (splitSign text).2 ∧ sign.negative = (splitSign text).1 := by
  unfold splitSign
  split
  · exact ⟨minus, rfl, rfl⟩
  · exact ⟨plus, rfl, rfl⟩
  · exact ⟨none, rfl, rfl⟩

end Sign

/-- An integer as it is written: an optional sign and one digit or more. -/
structure IntegerText where
  sign : Sign
  digits : List Char
  allDigits : ∀ c ∈ digits, c.isDigit = true
  nonempty : digits ≠ []

namespace IntegerText

def chars (written : IntegerText) : List Char := written.sign.chars ++ written.digits

def value (written : IntegerText) : Int :=
  Binary64.signed written.sign.negative (ofDigits written.digits)

theorem head_digits (written : IntegerText) : ∃ c rest,
    written.digits = c :: rest ∧ c.isDigit = true := by
  obtain ⟨c, rest, same⟩ := List.exists_cons_of_ne_nil written.nonempty
  exact ⟨c, rest, same, written.allDigits c (same ▸ List.mem_cons_self)⟩

end IntegerText

theorem signedDigits?_chars (written : IntegerText) :
    signedDigits? written.chars = some written.value := by
  obtain ⟨c, rest, same, digit⟩ := written.head_digits
  have unsigned : Sign.Unsigned written.digits := by
    rintro _ head
    rw [same] at head
    cases head
    exact ne_sign_of_isDigit digit
  have all : written.digits.all Char.isDigit = true := List.all_eq_true.mpr written.allDigits
  rw [signedDigits?, IntegerText.chars, Sign.splitSign_append _ unsigned]
  simp [written.nonempty, all, IntegerText.value, Binary64.signed]

/-- Integers are read from the texts in which they are written, and from no others. -/
theorem signedDigits?_eq_some_iff {value : Int} :
    signedDigits? text = some value ↔
      ∃ written : IntegerText, written.chars = text ∧ written.value = value := by
  constructor
  · intro read
    obtain ⟨sign, whole, negative⟩ := Sign.exists_splitSign text
    rw [signedDigits?] at read
    split at read
    next isNegative digits split =>
    rw [split] at whole negative
    obtain ⟨accepted, same⟩ := Option.ite_none_left_eq_some.mp read
    simp only [Bool.or_eq_true, List.isEmpty_iff, Bool.not_eq_true', not_or,
      Bool.not_eq_false] at accepted
    refine ⟨⟨sign, digits, List.all_eq_true.mp accepted.2, accepted.1⟩, whole.symm, ?_⟩
    rw [← Option.some.inj same, IntegerText.value, negative]
    rfl
  · rintro ⟨written, rfl, rfl⟩
    exact signedDigits?_chars written

/-- The power of ten of a numeral, behind a letter E of either case. -/
structure PowerText where
  upper : Bool
  exponent : IntegerText

def PowerText.chars (written : PowerText) : List Char :=
  (if written.upper then 'E' else 'e') :: written.exponent.chars

/-- A numeral as it is written. A point has digits before it, behind it or both. -/
structure NumeralText where
  sign : Sign
  whole : List Char
  /-- The digits behind the point, if there is one. -/
  fraction : Option (List Char)
  power : Option PowerText
  wholeDigits : ∀ c ∈ whole, c.isDigit = true
  fractionDigits : ∀ c ∈ fraction.getD [], c.isDigit = true
  nonempty : whole ++ fraction.getD [] ≠ []

namespace NumeralText

def fractionChars (written : NumeralText) : List Char :=
  (written.fraction.map fun digits => '.' :: digits).getD []

def powerChars (written : NumeralText) : List Char := (written.power.map PowerText.chars).getD []

def chars (written : NumeralText) : List Char :=
  written.sign.chars ++ (written.whole ++ (written.fractionChars ++ written.powerChars))

def numeral (written : NumeralText) : Numeral :=
  ⟨written.sign.negative, written.whole ++ written.fraction.getD [],
    (written.power.map fun power => power.exponent.value).getD 0 -
      (written.fraction.getD []).length⟩

variable (written : NumeralText)

theorem stopsRun_powerChars : StopsRun Char.isDigit written.powerChars := by
  intro c head
  rw [powerChars] at head
  cases power : written.power with
  | none =>
    rw [power] at head
    cases head
  | some part =>
    rw [power] at head
    cases head
    split <;> rfl

theorem stopsRun_fractionChars : StopsRun Char.isDigit (written.fractionChars ++ written.powerChars) := by
  have stops := written.stopsRun_powerChars
  rw [fractionChars]
  cases written.fraction with
  | none => exact stops
  | some digits =>
    intro c head
    cases head
    rfl

theorem unsigned :
    Sign.Unsigned (written.whole ++ (written.fractionChars ++ written.powerChars)) := by
  have nonempty := written.nonempty
  have wholeDigits := written.wholeDigits
  rw [fractionChars]
  intro c head
  cases whole : written.whole with
  | cons first rest =>
    rw [whole] at head wholeDigits
    cases head
    exact ne_sign_of_isDigit (wholeDigits c List.mem_cons_self)
  | nil =>
    rw [whole] at head nonempty
    cases fraction : written.fraction with
    | none =>
      rw [fraction] at nonempty
      exact absurd rfl nonempty
    | some digits =>
      rw [fraction] at head
      cases head
      decide

end NumeralText

theorem exponentPart?_powerChars (written : NumeralText) :
    exponentPart? written.powerChars =
      some ((written.power.map fun power => power.exponent.value).getD 0) := by
  rw [NumeralText.powerChars]
  cases written.power with
  | none => rfl
  | some power =>
    have marker : ((if power.upper then 'E' else 'e') == 'e' ||
        (if power.upper then 'E' else 'e') == 'E') = true := by
      cases power.upper <;> rfl
    simp only [Option.map_some, Option.getD_some, PowerText.chars, exponentPart?, marker, if_true,
      signedDigits?_chars]

/-- Split off the digits behind a point. -/
def splitFraction : List Char → List Char × List Char
  | '.' :: rest => (rest.takeWhile Char.isDigit, rest.dropWhile Char.isDigit)
  | rest => ([], rest)

theorem splitFraction_chars (written : NumeralText) :
    splitFraction (written.fractionChars ++ written.powerChars) =
      (written.fraction.getD [], written.powerChars) := by
  have digits := written.fractionDigits
  rw [NumeralText.fractionChars]
  cases fraction : written.fraction with
  | some found =>
    rw [fraction, Option.getD_some] at digits
    obtain ⟨taken, left⟩ := run_append digits written.stopsRun_powerChars
    exact Prod.ext taken left
  | none =>
    rw [NumeralText.powerChars]
    cases written.power with
    | none => rfl
    | some power => cases upper : power.upper <;> simp [PowerText.chars, upper, splitFraction]

theorem numeral?_eq {negative : Bool} {unsigned : List Char}
    (signed : splitSign text = (negative, unsigned)) :
    numeral? text =
      let (fraction, left) := splitFraction (unsigned.dropWhile Char.isDigit)
      if unsigned.takeWhile Char.isDigit ++ fraction = [] then none
      else (exponentPart? left).map fun exponent =>
        ⟨negative, unsigned.takeWhile Char.isDigit ++ fraction, exponent - fraction.length⟩ := by
  rw [numeral?, signed]
  dsimp only
  generalize unsigned.dropWhile Char.isDigit = behind
  unfold splitFraction
  split <;> simp

theorem numeral?_chars (written : NumeralText) :
    numeral? written.chars = some written.numeral := by
  obtain ⟨taken, left⟩ := run_append written.wholeDigits written.stopsRun_fractionChars
  rw [NumeralText.chars, numeral?_eq (Sign.splitSign_append written.sign written.unsigned), taken,
    left, splitFraction_chars]
  simp only [if_neg written.nonempty, exponentPart?_powerChars, Option.map_some]
  rfl

theorem exists_splitFraction (text : List Char) :
    ∃ (fraction : Option (List Char)) (left : List Char),
      splitFraction text = (fraction.getD [], left) ∧
      (∀ c ∈ fraction.getD [], c.isDigit = true) ∧
      text = (fraction.map fun digits => '.' :: digits).getD [] ++ left := by
  unfold splitFraction
  split
  · exact ⟨some _, _, rfl, fun c => List.all_eq_true.mp List.all_takeWhile c, by simp⟩
  · exact ⟨none, _, rfl, nofun, rfl⟩

theorem exists_powerText {exponent : Int} (read : exponentPart? text = some exponent) :
    ∃ power : Option PowerText, (power.map PowerText.chars).getD [] = text ∧
      (power.map fun power => power.exponent.value).getD 0 = exponent := by
  cases text with
  | nil => exact ⟨none, rfl, Option.some.inj read⟩
  | cons marker rest =>
    rw [exponentPart?] at read
    obtain ⟨marked, read⟩ := Option.ite_none_right_eq_some.mp read
    obtain ⟨written, rfl, value⟩ := signedDigits?_eq_some_iff.mp read
    simp only [Bool.or_eq_true, beq_iff_eq] at marked
    rcases marked with rfl | rfl
    · exact ⟨some ⟨false, written⟩, rfl, value⟩
    · exact ⟨some ⟨true, written⟩, rfl, value⟩

/-- Numerals are read from the texts in which they are written, and from no others. -/
theorem numeral?_eq_some_iff {numeral : Numeral} :
    numeral? text = some numeral ↔
      ∃ written : NumeralText, written.chars = text ∧ written.numeral = numeral := by
  constructor
  · intro read
    obtain ⟨sign, whole, negative⟩ := Sign.exists_splitSign text
    have signed : splitSign text = ((splitSign text).1, (splitSign text).2) := rfl
    rw [numeral?_eq signed] at read
    generalize (splitSign text).2 = unsigned at whole read
    obtain ⟨fraction, left, split, digits, behind⟩ :=
      exists_splitFraction (unsigned.dropWhile Char.isDigit)
    rw [split] at read
    obtain ⟨nonempty, read⟩ := Option.ite_none_left_eq_some.mp read
    obtain ⟨exponent, read, same⟩ := Option.map_eq_some_iff.mp read
    obtain ⟨power, rfl, value⟩ := exists_powerText read
    refine ⟨⟨sign, unsigned.takeWhile Char.isDigit, fraction, power,
      fun c => List.all_eq_true.mp List.all_takeWhile c, digits, nonempty⟩, ?_, ?_⟩
    · rw [NumeralText.chars, NumeralText.fractionChars, NumeralText.powerChars, ← behind,
        List.takeWhile_append_dropWhile, ← whole]
    · rw [← same, NumeralText.numeral, negative, value]
  · rintro ⟨written, rfl, rfl⟩
    exact numeral?_chars written

/-! ## Numerals among other characters -/

/-- The characters of numerals other than digits. -/
def marks : List Char := ['+', '-', '.', 'e', 'E']

theorem not_isBlank_of_isDigit {c : Char} (digit : c.isDigit = true) : Text.isBlank c = false := by
  obtain ⟨least, most⟩ := Char.isDigit_iff_toNat.mp digit
  replace least : 48 ≤ c.toNat := least
  replace most : c.toNat ≤ 57 := most
  simp only [Text.isBlank, Bool.or_eq_false_iff, Bool.and_eq_false_iff, decide_eq_false_iff_not,
    beq_eq_false_iff_ne]
  omega

theorem Sign.mem_marks (sign : Sign) : ∀ c ∈ sign.chars, c ∈ marks := by
  cases sign <;> simp [Sign.chars, marks]

namespace NumeralText

theorem mem_fractionChars (written : NumeralText) :
    ∀ c ∈ written.fractionChars, c.isDigit = true ∨ c = '.' := by
  have digits := written.fractionDigits
  rw [fractionChars]
  cases fraction : written.fraction with
  | none => nofun
  | some found =>
    rw [fraction] at digits
    intro c member
    rcases List.mem_cons.mp member with point | digit
    · exact .inr point
    · exact .inl (digits c digit)

theorem mem_chars (written : NumeralText) :
    ∀ c ∈ written.chars, c.isDigit = true ∨ c ∈ marks := by
  intro c member
  rw [chars, List.mem_append, List.mem_append, List.mem_append] at member
  rcases member with sign | whole | fraction | power
  · exact .inr (written.sign.mem_marks c sign)
  · exact .inl (written.wholeDigits c whole)
  · refine (written.mem_fractionChars c fraction).imp_right ?_
    rintro rfl
    decide
  · rw [powerChars] at power
    cases part : written.power with
    | none =>
      rw [part] at power
      cases power
    | some found =>
      rw [part] at power
      rcases List.mem_cons.mp power with rfl | exponent
      · right
        split <;> decide
      · rcases List.mem_append.mp exponent with sign | digit
        · exact .inr (found.exponent.sign.mem_marks c sign)
        · exact .inl (found.exponent.allDigits c digit)

theorem not_isBlank_of_mem (written : NumeralText) :
    ∀ c ∈ written.chars, Text.isBlank c = false := by
  intro c member
  rcases written.mem_chars c member with digit | mark
  · exact not_isBlank_of_isDigit digit
  · have solid : ∀ mark ∈ marks, Text.isBlank mark = false := by simp [marks, Text.isBlank]
    exact solid c mark

theorem mantissa_ne_nil (written : NumeralText) : written.whole ++ written.fractionChars ≠ [] := by
  have nonempty := written.nonempty
  rw [fractionChars]
  cases fraction : written.fraction with
  | none => rwa [fraction] at nonempty
  | some digits => simp

/-- A numeral ends with a digit or a point. -/
theorem exists_end (written : NumeralText) :
    ∃ before last, written.chars = before ++ [last] ∧ (last.isDigit = true ∨ last = '.') := by
  obtain ⟨before, tail, split, nonempty, all⟩ : ∃ before tail, written.chars = before ++ tail ∧
      tail ≠ [] ∧ ∀ c ∈ tail, c.isDigit = true ∨ c = '.' := by
    cases power : written.power with
    | none =>
      refine ⟨written.sign.chars, written.whole ++ written.fractionChars, ?_,
        written.mantissa_ne_nil, fun c member => ?_⟩
      · rw [chars, powerChars, power, Option.map_none, Option.getD_none, List.append_nil]
      · exact (List.mem_append.mp member).elim (fun digit => .inl (written.wholeDigits c digit))
          (written.mem_fractionChars c)
    | some part =>
      refine ⟨written.sign.chars ++ (written.whole ++ (written.fractionChars ++
        ((if part.upper then 'E' else 'e') :: part.exponent.sign.chars))), part.exponent.digits, ?_,
        part.exponent.nonempty, fun c member => .inl (part.exponent.allDigits c member)⟩
      simp [chars, powerChars, power, PowerText.chars, IntegerText.chars]
  refine ⟨before ++ tail.dropLast, tail.getLast nonempty, ?_, all _ (List.getLast_mem nonempty)⟩
  rw [split, List.append_assoc, List.dropLast_concat_getLast]

theorem chars_ne_nil (written : NumeralText) : written.chars ≠ [] := by
  obtain ⟨before, last, same, -⟩ := written.exists_end
  simp [same]

/-- The number nearest to a numeral. -/
def value (written : NumeralText) : Binary64 := written.numeral.toBinary64

end NumeralText

/-- A numeral with blanks around it. -/
structure SpacedNumeral where
  before : List Char
  numeral : NumeralText
  after : List Char
  blankBefore : ∀ c ∈ before, Text.isBlank c = true
  blankAfter : ∀ c ∈ after, Text.isBlank c = true

namespace SpacedNumeral

def chars (spaced : SpacedNumeral) : List Char :=
  spaced.before ++ spaced.numeral.chars ++ spaced.after

theorem trim_chars (spaced : SpacedNumeral) :
    Text.trim (.ofList spaced.chars) = .ofList spaced.numeral.chars := by
  have plain := spaced.numeral.not_isBlank_of_mem
  rw [Text.trim, String.toList_ofList, chars, Text.trimChars_append spaced.blankBefore
    spaced.blankAfter spaced.numeral.chars_ne_nil]
  · exact fun c head => plain c (List.mem_of_head? head)
  · exact fun c last => plain c (List.mem_of_getLast? last)

theorem readFinite?_chars (spaced : SpacedNumeral) :
    readFinite? (.ofList spaced.chars) = (some spaced.numeral.value).filter Binary64.isFinite := by
  rw [readFinite?, trim_chars, read?, String.toList_ofList, numeral?_chars]
  rfl

end SpacedNumeral

end CreatureNaming.Number
