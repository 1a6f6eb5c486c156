import CreatureNaming.Json.Number
import CreatureNaming.Json.Printer
import CreatureNaming.Json.Reader
import CreatureNaming.Proofs.Number.Digits

/-! Numbers of JSON documents.

A numeral that is written is read up to where no number goes on. The numerals of integers and of
numbers in double precision are of this form, and an integer that fits is read back from its
digits.
-/

set_option autoImplicit false

namespace CreatureNaming

open Number

namespace Json

variable {found rest : List Char} {numeral : Numeral}

/-- One digit or more. -/
def AreDigits (chars : List Char) : Prop := chars ≠ [] ∧ ∀ c ∈ chars, c.isDigit = true

theorem areDigits_zero : AreDigits ['0'] := ⟨by simp, by simp⟩

theorem areDigits_decimalDigits (number : Nat) : AreDigits (decimalDigits number) :=
  ⟨decimalDigits_ne_nil number, fun _ => isDigit_of_mem_decimalDigits⟩

/-- The parts of a numeral have the form in which they are written. -/
structure Numeral.IsWritten (numeral : Numeral) : Prop where
  whole : AreDigits numeral.whole
  leading : ∀ second rest, numeral.whole ≠ '0' :: second :: rest
  fraction : ∀ digits ∈ numeral.fraction, AreDigits digits
  exponent : ∀ part ∈ numeral.exponent, AreDigits part.2

/-- No number goes on in what follows it. -/
def EndsNumber (rest : List Char) : Prop :=
  ∀ c ∈ rest.head?, c.isDigit = false ∧ c ≠ '.' ∧ c ≠ 'e' ∧ c ≠ 'E'

theorem endsNumber_nil : EndsNumber [] := by
  intro c nothing
  cases nothing

/-! ## Reading numerals -/

theorem digits_append (all : ∀ c ∈ found, c.isDigit = true)
    (ends : ∀ c ∈ rest.head?, c.isDigit = false) : digits (found ++ rest) = (found, rest) := by
  rw [digits, List.takeWhile_append_of_pos all, List.dropWhile_append_of_pos all]
  cases rest with
  | nil => simp
  | cons c rest => simp [ends c rfl]

def fractionChars : Option (List Char) → List Char
  | some digits => '.' :: digits
  | none => []

def exponentChars : Option (Bool × List Char) → List Char
  | some (negative, digits) => 'e' :: (if negative then '-' else '+') :: digits
  | none => []

theorem Numeral.chars_eq (numeral : Numeral) :
    numeral.chars = (if numeral.negative then ['-'] else []) ++ (numeral.whole ++
      (fractionChars numeral.fraction ++ exponentChars numeral.exponent)) := by
  simp only [Numeral.chars, List.append_assoc]
  rfl

theorem fraction?_append {fraction : Option (List Char)}
    (all : ∀ digits ∈ fraction, AreDigits digits)
    (ends : ∀ c ∈ rest.head?, c.isDigit = false ∧ c ≠ '.') :
    fraction? (fractionChars fraction ++ rest) = some (fraction, rest) := by
  cases fraction with
  | none =>
    rw [fractionChars, List.nil_append]
    apply fraction?.eq_2
    rintro later rfl
    exact (ends '.' rfl).2 rfl
  | some digits =>
    obtain ⟨nonempty, digitsOnly⟩ := all digits rfl
    rw [fractionChars, List.cons_append, fraction?,
      digits_append digitsOnly fun c head => (ends c head).1]
    cases digits with
    | nil => exact absurd rfl nonempty
    | cons first others => rfl

theorem exponent?_append {exponent : Option (Bool × List Char)}
    (all : ∀ part ∈ exponent, AreDigits part.2) (ends : EndsNumber rest) :
    exponent? (exponentChars exponent ++ rest) = some (exponent, rest) := by
  cases exponent with
  | none =>
    rw [exponentChars, List.nil_append]
    cases rest with
    | nil => rfl
    | cons c rest =>
      obtain ⟨-, -, small, large⟩ := ends c rfl
      simp [exponent?, small, large]
  | some part =>
    obtain ⟨negative, digits⟩ := part
    obtain ⟨nonempty, digitsOnly⟩ : AreDigits digits := all _ rfl
    have read := digits_append digitsOnly fun c head => (ends c head).1
    cases digits with
    | nil => exact absurd rfl nonempty
    | cons first others =>
      rw [List.cons_append] at read
      cases negative <;> simp [exponentChars, exponent?, read]

theorem ends_exponentChars (exponent : Option (Bool × List Char)) (ends : EndsNumber rest) :
    ∀ c ∈ (exponentChars exponent ++ rest).head?, c.isDigit = false ∧ c ≠ '.' := by
  cases exponent with
  | none => exact fun c head => ⟨(ends c head).1, (ends c head).2.1⟩
  | some part =>
    rintro c ⟨⟩
    decide

theorem ends_fractionChars (fraction : Option (List Char))
    (ends : ∀ c ∈ rest.head?, c.isDigit = false ∧ c ≠ '.') :
    ∀ c ∈ (fractionChars fraction ++ rest).head?, c.isDigit = false := by
  cases fraction with
  | none => exact fun c head => (ends c head).1
  | some digits =>
    rintro c ⟨⟩
    decide

/-- Read a number behind its sign. -/
def unsigned? (negative : Bool) (input : List Char) : Option (Numeral × List Char) := do
  let (whole, rest) := digits input
  match whole with
  | [] => none
  | '0' :: _ :: _ => none
  | whole =>
      let (fraction, rest) ← fraction? rest
      let (exponent, rest) ← exponent? rest
      return (⟨negative, whole, fraction, exponent⟩, rest)

theorem numeral?_negative (input : List Char) : numeral? ('-' :: input) = unsigned? true input :=
  rfl

theorem numeral?_unsigned {first : Char} (notSign : first ≠ '-') (input : List Char) :
    numeral? (first :: input) = unsigned? false (first :: input) := by
  unfold numeral?
  split
  next negative rest signed =>
    split at signed
    · next same => exact absurd (List.cons.inj same).1 notSign
    · obtain ⟨rfl, rfl⟩ := Prod.mk.inj signed
      rfl

theorem unsigned?_append (written : numeral.IsWritten) (ends : EndsNumber rest) :
    unsigned? numeral.negative (numeral.whole ++ (fractionChars numeral.fraction ++
      (exponentChars numeral.exponent ++ rest))) = some (numeral, rest) := by
  have endsFraction := ends_exponentChars numeral.exponent ends
  have endsWhole := ends_fractionChars numeral.fraction endsFraction
  unfold unsigned?
  rw [digits_append written.whole.2 endsWhole]
  dsimp only
  split
  · next nothing => exact absurd nothing written.whole.1
  · next leading => exact absurd leading (written.leading _ _)
  · rw [fraction?_append written.fraction endsFraction, Option.bind_eq_bind, Option.bind_some,
      exponent?_append written.exponent ends]
    rfl

theorem numeral?_append (written : numeral.IsWritten) (ends : EndsNumber rest) :
    numeral? (numeral.chars ++ rest) = some (numeral, rest) := by
  have read := unsigned?_append written ends
  rw [Numeral.chars_eq]
  simp only [List.append_assoc]
  cases sign : numeral.negative with
  | true =>
    rw [sign] at read
    exact (numeral?_negative _).trans read
  | false =>
    rw [sign] at read
    cases whole : numeral.whole with
    | nil => exact absurd whole written.whole.1
    | cons first others =>
      have notSign : first ≠ '-' := by
        rintro rfl
        have digit := written.whole.2 '-' (by simp [whole])
        cases digit
      rw [whole] at read
      exact (numeral?_unsigned notSign _).trans read

theorem Numeral.IsWritten.head (written : numeral.IsWritten) :
    ∃ first rest, numeral.chars = first :: rest ∧ (first == '-' || first.isDigit) = true := by
  rw [Numeral.chars_eq]
  cases numeral.negative with
  | true => exact ⟨'-', _, rfl, rfl⟩
  | false =>
    obtain ⟨nonempty, digits⟩ := written.whole
    cases whole : numeral.whole with
    | nil => exact absurd whole nonempty
    | cons first others =>
      refine ⟨first, _, rfl, ?_⟩
      rw [digits first (by simp [whole]), Bool.or_true]

/-! ## The numerals that are written -/

theorem isWritten_decimalDigits (negative : Bool) (number : Nat) :
    (Numeral.mk negative (decimalDigits number) none none).IsWritten :=
  ⟨areDigits_decimalDigits number, fun _ _ => leading_decimalDigits number _ _, nofun, nofun⟩

theorem isWritten_ofNat (value : Nat) : (Numeral.ofNat value).IsWritten :=
  isWritten_decimalDigits false value

theorem isWritten_ofInt (value : Int) : (Numeral.ofInt value).IsWritten :=
  isWritten_decimalDigits _ value.natAbs

/-- Digits written out in full stand for an integer, or they go on behind a point. -/
theorem positional_cases (number : Nat) (exponent : Int) :
    ∃ whole tail, positional number exponent = whole ++ tail ∧ AreDigits whole ∧
      (∀ second rest, whole ≠ '0' :: second :: rest) ∧
      (tail = [] ∨ ∃ fraction, tail = '.' :: fraction ∧ AreDigits fraction) := by
  obtain ⟨whole, fraction, written, plain, -⟩ := positional_split number exponent
  refine ⟨whole, pointed fraction, written, ⟨plain.nonempty, plain.wholeDigits⟩, plain.leading, ?_⟩
  cases fraction with
  | nil => exact .inl rfl
  | cons first rest => exact .inr ⟨_, rfl, List.cons_ne_nil _ _, plain.fractionDigits⟩

/-- The first digits of a number are digits, and so are the others if there are any. -/
theorem areDigits_split {digits : List Char} (all : AreDigits digits) :
    AreDigits (digits.take 1) ∧ (digits.length ≠ 1 → AreDigits (digits.drop 1)) := by
  obtain ⟨nonempty, all⟩ := all
  cases digits with
  | nil => exact absurd rfl nonempty
  | cons first others =>
    rw [List.forall_mem_cons] at all
    refine ⟨⟨by simp, by simpa using all.1⟩, ?_⟩
    intro more
    refine ⟨?_, all.2⟩
    rintro rfl
    exact more rfl

theorem isWritten_ofMagnitude (negative : Bool) (magnitude : Binary64.Magnitude) :
    (Numeral.ofMagnitude negative magnitude).IsWritten := by
  rw [Numeral.ofMagnitude]
  generalize shortest .even magnitude = decimal
  dsimp only
  -- Zero, then a number without an exponent, then one with an exponent.
  split
  · refine ⟨areDigits_zero, nofun, ?_, nofun⟩
    rintro _ ⟨⟩
    exact areDigits_zero
  split
  · obtain ⟨whole, tail, written, digits, leading, pointed⟩ :=
      positional_cases decimal.digits decimal.exponent
    have ends : ∀ c ∈ tail.head?, c = '.' := by
      rcases pointed with rfl | ⟨fraction, rfl, -⟩
      · nofun
      · rintro c ⟨⟩
        rfl
    obtain ⟨before, behind⟩ :=
      split_point (fun c member => ne_point_of_isDigit (digits.2 c member)) ends
    rw [Decimal.positionalText, written, before, behind]
    refine ⟨digits, leading, ?_, nofun⟩
    rintro _ ⟨⟩
    rcases pointed with rfl | ⟨fraction, rfl, fractionDigits⟩
    · exact areDigits_zero
    · simpa [fractionDigits.1] using fractionDigits
  · obtain ⟨first, others⟩ := areDigits_split (areDigits_decimalDigits decimal.digits)
    refine ⟨first, ?_, ?_, ?_⟩
    · intro second rest long
      have short := congrArg List.length long
      simp [List.length_take] at short
      omega
    · intro digits member
      obtain ⟨more, same⟩ := Option.ite_none_left_eq_some.mp member
      cases same
      exact others more
    · rintro _ ⟨⟩
      exact areDigits_decimalDigits _

/-! ## Reading integers back -/

theorem le_ofDigitChars (digits : List Char) (significand : Nat) :
    significand ≤ Nat.ofDigitChars 10 digits significand := by
  rw [Nat.ofDigitChars_eq_ofDigitChars_zero]
  have scaled : significand ≤ 10 ^ digits.length * significand :=
    Nat.le_mul_of_pos_left _ (Nat.pow_pos (by decide))
  exact Nat.le_trans scaled (Nat.le_add_right _ _)

/-- Digits are taken in as long as there is room for them. -/
theorem absorb_eq {digits : List Char} {significand : Nat}
    (fits : Nat.ofDigitChars 10 digits significand ≤ maxUInt64) :
    absorb significand digits = (Nat.ofDigitChars 10 digits significand, []) := by
  induction digits generalizing significand with
  | nil => rfl
  | cons digit rest ih =>
    have next : significand * 10 + digitOf digit =
        10 * significand + (digit.toNat - '0'.toNat) := by
      rw [digitOf, Nat.mul_comm]
    rw [Nat.ofDigitChars_cons] at fits ⊢
    have room := le_ofDigitChars rest (10 * significand + (digit.toNat - '0'.toNat))
    rw [absorb, next, if_neg (Nat.not_lt_of_le (Nat.le_trans room fits))]
    exact ih fits

theorem absorb_decimalDigits {number : Nat} (fits : number ≤ maxUInt64) :
    absorb 0 (decimalDigits number) = (number, []) := by
  have value : Nat.ofDigitChars 10 (decimalDigits number) 0 = number :=
    Nat.ofDigitChars_ten_toDigits
  rw [absorb_eq (by rwa [value]), value]

theorem toInt?_ofNat {value : Nat} (fits : value ≤ maxUInt64) :
    (Numeral.ofNat value).toInt? = some (value : Int) := by
  simp only [Numeral.toInt?, Numeral.ofNat, absorb_decimalDigits fits]
  rfl

theorem toInt?_ofInt {value : Int} (low : Binary64.minInt64 ≤ value)
    (high : value ≤ maxUInt64) : (Numeral.ofInt value).toInt? = some value := by
  have fits : value.natAbs ≤ maxUInt64 := by
    have least : Binary64.minInt64 = -9223372036854775808 := rfl
    have most : maxUInt64 = 18446744073709551615 := rfl
    omega
  simp only [Numeral.toInt?, Numeral.ofInt, absorb_decimalDigits fits]
  by_cases negative : value < 0
  · have magnitude : -(value.natAbs : Int) = value := by omega
    have nonzero : (value.natAbs != 0) = true := bne_iff_ne.mpr (by omega)
    simp only [Option.isSome_none, Bool.or_self, Bool.false_eq_true, if_false, negative,
      decide_true, Bool.not_true, nonzero, magnitude, low, Bool.and_self, if_true]
  · have magnitude : (value.natAbs : Int) = value := by omega
    simp only [Option.isSome_none, Bool.or_self, Bool.false_eq_true, if_false, negative,
      decide_false, Bool.not_false, if_true, magnitude]

end Json

end CreatureNaming
