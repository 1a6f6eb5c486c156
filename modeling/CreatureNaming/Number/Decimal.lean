import CreatureNaming.Number.Binary64
import CreatureNaming.Number.Digits

/-! Decimal texts of magnitudes.

A magnitude is written with a given number of places, with a given number of significant digits,
or with the fewest digits that read back. All of it is exact arithmetic on natural numbers.
-/

set_option autoImplicit false

namespace CreatureNaming.Number

open Binary64 (Magnitude roundEven)

/-- The value `digits · 10^exponent`. -/
structure Decimal where
  digits : Nat
  exponent : Int
  deriving DecidableEq, Repr

/-- The power of ten of the first digit of a positive quotient. -/
def leadingExponent (numerator denominator : Nat) : Int :=
  let guess : Int :=
    ((decimalDigits numerator).length : Int) - ((decimalDigits denominator).length : Int)
  if numerator * Nat.pow 10 (-guess).toNat < denominator * Nat.pow 10 guess.toNat then guess - 1
  else guess

/-- The multiple of `10^exponent` nearest to a quotient, a tie going to the even digit. -/
def roundAt (exponent : Int) (numerator denominator : Nat) : Nat :=
  roundEven (numerator * Nat.pow 10 (-exponent).toNat) (denominator * Nat.pow 10 exponent.toNat)

/-- A magnitude with a fixed number of places after the point. -/
def fixedText (places : Nat) (magnitude : Magnitude) : List Char :=
  positional (roundAt (-places) magnitude.numerator magnitude.denominator) (-places)

/-- One digit before the point, the others after it, and a power of ten. -/
structure Scientific where
  digits : List Char
  exponent : Int
  deriving DecidableEq, Repr

/-- A magnitude rounded to one digit and `places` more. -/
def significant (places : Nat) (magnitude : Magnitude) : Scientific :=
  if magnitude.mantissa = 0 then ⟨List.replicate (places + 1) '0', 0⟩
  else
    let leading := leadingExponent magnitude.numerator magnitude.denominator
    let digits := roundAt (leading - places) magnitude.numerator magnitude.denominator
    if digits = Nat.pow 10 (places + 1) then ⟨decimalDigits (Nat.pow 10 places), leading + 1⟩
    else ⟨decimalDigits digits, leading⟩

/-- Which of two equally near decimals of the fewest digits is taken. -/
inductive Tie where
  | up
  | even
  deriving DecidableEq, Repr

/-- The numbers that round to a magnitude lie between `low` and `high`, in quarters of its last
bit; the ends belong to them when the mantissa is even. -/
structure Interval where
  low : Nat
  value : Nat
  high : Nat
  closed : Bool

def intervalOf (magnitude : Magnitude) : Interval :=
  let quarters := 4 * magnitude.mantissa
  let halved := magnitude.mantissa = Binary64.leastFull ∧ -1074 < magnitude.exponent
  ⟨if halved then quarters - 1 else quarters - 2, quarters, quarters + 2,
    magnitude.mantissa % 2 == 0⟩

/-- The nearest of the two multiples of a grid beside the value that lie in its interval. One
quarter is `quarter` units and the grid's step is `step` units. -/
def gridPoint? (tie : Tie) (interval : Interval) (quarter step : Nat) : Option Nat :=
  let holds (point : Nat) : Bool :=
    let place := point * step
    let low := interval.low * quarter
    let high := interval.high * quarter
    if interval.closed then low ≤ place && place ≤ high else low < place && place < high
  let value := interval.value * quarter
  let below := value / step
  let above := below + 1
  if holds below && holds above then
    let down := value - below * step
    let up := above * step - value
    if down < up then some below
    else if up < down then some above
    else match tie with
      | .up => some above
      | .even => some (if below % 2 = 0 then below else above)
  else if holds below then some below
  else if holds above then some above
  else none

/-- Try grids from `10^exponent` downwards, at most `steps + 1` of them. -/
def shortestFrom (tie : Tie) (interval : Interval) (unit : Int) :
    (steps : Nat) → (exponent : Int) → Decimal
  | steps, exponent =>
      let quarter := Nat.pow 2 unit.toNat * Nat.pow 10 (-exponent).toNat
      let step := Nat.pow 2 (-unit).toNat * Nat.pow 10 exponent.toNat
      match gridPoint? tie interval quarter step with
      | some point => ⟨point, exponent⟩
      | none =>
          match steps with
          | 0 => ⟨interval.value * quarter / step, exponent⟩
          | steps + 1 => shortestFrom tie interval unit steps (exponent - 1)

/-- The decimal of the fewest digits that reads back as a magnitude, the nearest of those.
Seventeen digits always suffice. -/
def shortest (tie : Tie) (magnitude : Magnitude) : Decimal :=
  if magnitude.mantissa = 0 then ⟨0, 0⟩
  else
    let unit := magnitude.exponent - 2
    let interval := intervalOf magnitude
    let top :=
      leadingExponent (interval.high * Nat.pow 2 unit.toNat) (Nat.pow 2 (-unit).toNat)
    shortestFrom tie interval unit 18 top

def Decimal.scientific (decimal : Decimal) : Scientific :=
  let digits := decimalDigits decimal.digits
  ⟨digits, decimal.exponent + (digits.length : Int) - 1⟩

/-- One digit, and behind a point the others, if there are any. -/
def Scientific.mantissaText (number : Scientific) : List Char :=
  match number.digits with
  | [] => []
  | [first] => [first]
  | first :: rest => first :: '.' :: rest

/-- The digits of a decimal written out in full. -/
def Decimal.positionalText (decimal : Decimal) : List Char :=
  positional decimal.digits decimal.exponent

/-- The fewest digits that read back, written without an exponent. -/
def plainText : Binary64 → String
  | .nan => "NaN"
  | .infinite negative => if negative then "-inf" else "inf"
  | .finite negative magnitude =>
      .ofList ((if negative then ['-'] else []) ++ (shortest .up magnitude).positionalText)

end CreatureNaming.Number
