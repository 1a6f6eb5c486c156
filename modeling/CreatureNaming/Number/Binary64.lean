/-! Binary floating-point numbers of 64 bits.

A finite number is a sign and a magnitude `mantissa · 2^exponent` with a mantissa of 53 bits.
Each operation computes the exact result and rounds it once, to the nearest number, a tie going
to the even mantissa.
-/

set_option autoImplicit false

namespace CreatureNaming

namespace Binary64

/-- The least number of 53 bits. -/
def leastFull : Nat := 0x10000000000000

/-- A mantissa has 53 bits, or fewer at the smallest exponent. -/
def Fits (mantissa : Nat) (exponent : Int) : Prop :=
  mantissa < 2 * leastFull ∧ -1074 ≤ exponent ∧ exponent ≤ 971 ∧
    (leastFull ≤ mantissa ∨ exponent = -1074)

instance (mantissa : Nat) (exponent : Int) : Decidable (Fits mantissa exponent) :=
  inferInstanceAs (Decidable (_ ∧ _))

/-- The absolute value of a finite number. -/
structure Magnitude where
  mantissa : Nat
  exponent : Int
  fits : Fits mantissa exponent
  deriving DecidableEq

end Binary64

inductive Binary64 where
  | nan
  | infinite (negative : Bool)
  | finite (negative : Bool) (magnitude : Binary64.Magnitude)
  deriving DecidableEq

namespace Binary64

def Magnitude.zero : Magnitude := ⟨0, -1074, by decide⟩

/-- The magnitude is `numerator / denominator`. -/
def Magnitude.numerator (magnitude : Magnitude) : Nat :=
  magnitude.mantissa * Nat.pow 2 magnitude.exponent.toNat

def Magnitude.denominator (magnitude : Magnitude) : Nat :=
  Nat.pow 2 (-magnitude.exponent).toNat

/-- The integer nearest to a quotient, the even one of two that are equally near. -/
def roundEven (numerator denominator : Nat) : Nat :=
  let quotient := numerator / denominator
  let twice := 2 * (numerator % denominator)
  if twice < denominator ∨ (twice = denominator ∧ quotient % 2 = 0) then quotient
  else quotient + 1

/-- The exponent of the last of 53 bits of a positive quotient, but no less than the smallest
exponent. -/
def unitExponent (numerator denominator : Nat) : Int :=
  let low : Int := (numerator.log2 : Int) - (denominator.log2 : Int) - 53
  let unit :=
    if 2 * leastFull * denominator * Nat.pow 2 low.toNat ≤ numerator * Nat.pow 2 (-low).toNat then
      low + 1
    else low
  max (-1074) unit

/-- The magnitude nearest to a quotient; none when it is beyond the largest one. -/
def nearest? (numerator denominator : Nat) : Option Magnitude :=
  if numerator = 0 then some .zero
  else
    let unit := unitExponent numerator denominator
    let mantissa :=
      roundEven (numerator * Nat.pow 2 (-unit).toNat) (denominator * Nat.pow 2 unit.toNat)
    let (mantissa, exponent) :=
      if mantissa = 2 * leastFull then (leastFull, unit + 1) else (mantissa, unit)
    if fits : Fits mantissa exponent then some ⟨mantissa, exponent, fits⟩ else none

/-- The number nearest to a signed quotient; a quotient beyond the largest number is infinite. -/
def ofRatio (negative : Bool) (numerator denominator : Nat) : Binary64 :=
  match nearest? numerator denominator with
  | some magnitude => .finite negative magnitude
  | none => .infinite negative

def zero : Binary64 := .finite false .zero

def ofInt (value : Int) : Binary64 := ofRatio (value < 0) value.natAbs 1

def ofNat (value : Nat) : Binary64 := ofRatio false value 1

def negate : Binary64 → Binary64
  | .nan => .nan
  | .infinite negative => .infinite !negative
  | .finite negative magnitude => .finite (!negative) magnitude

def abs : Binary64 → Binary64
  | .nan => .nan
  | .infinite _ => .infinite false
  | .finite _ magnitude => .finite false magnitude

def isFinite : Binary64 → Bool
  | .finite _ _ => true
  | _ => false

/-- Whether a number is zero, of either sign. -/
def isZero : Binary64 → Bool
  | .finite _ magnitude => magnitude.mantissa == 0
  | _ => false

/-- The signed numerator of a finite number over its denominator. -/
def signedNumerator (negative : Bool) (magnitude : Magnitude) : Int :=
  if negative then -(magnitude.numerator : Int) else magnitude.numerator

/-- The sum of two numbers. A sum of zero is negative only when both parts are. -/
def add : Binary64 → Binary64 → Binary64
  | .nan, _ => .nan
  | _, .nan => .nan
  | .infinite first, .infinite second => if first = second then .infinite first else .nan
  | .infinite negative, _ => .infinite negative
  | _, .infinite negative => .infinite negative
  | .finite first a, .finite second b =>
      let sum := signedNumerator first a * b.denominator + signedNumerator second b * a.denominator
      if sum = 0 then .finite (first && second) .zero
      else ofRatio (sum < 0) sum.natAbs (a.denominator * b.denominator)

def sub (first second : Binary64) : Binary64 := add first (negate second)

def mul : Binary64 → Binary64 → Binary64
  | .nan, _ => .nan
  | _, .nan => .nan
  | .infinite first, .infinite second => .infinite (first != second)
  | .infinite first, .finite second b =>
      if b.mantissa = 0 then .nan else .infinite (first != second)
  | .finite first a, .infinite second =>
      if a.mantissa = 0 then .nan else .infinite (first != second)
  | .finite first a, .finite second b =>
      ofRatio (first != second) (a.numerator * b.numerator) (a.denominator * b.denominator)

def div : Binary64 → Binary64 → Binary64
  | .nan, _ => .nan
  | _, .nan => .nan
  | .infinite _, .infinite _ => .nan
  | .infinite first, .finite second _ => .infinite (first != second)
  | .finite first _, .infinite second => .finite (first != second) .zero
  | .finite first a, .finite second b =>
      if b.mantissa = 0 then
        if a.mantissa = 0 then .nan else .infinite (first != second)
      else ofRatio (first != second) (a.numerator * b.denominator) (a.denominator * b.numerator)

/-- How two numbers compare; none when one of them is no number. Both zeros are equal. -/
def compare? : Binary64 → Binary64 → Option Ordering
  | .nan, _ => none
  | _, .nan => none
  | .infinite first, .infinite second =>
      some (if first = second then .eq else if first then .lt else .gt)
  | .infinite negative, _ => some (if negative then .lt else .gt)
  | _, .infinite negative => some (if negative then .gt else .lt)
  | .finite first a, .finite second b =>
      some (compare (signedNumerator first a * b.denominator)
        (signedNumerator second b * a.denominator))

def equals (first second : Binary64) : Bool := compare? first second == some .eq

def less (first second : Binary64) : Bool := compare? first second == some .lt

def atMost (first second : Binary64) : Bool := less first second || equals first second

/-- The integer part of a magnitude. -/
def Magnitude.floor (magnitude : Magnitude) : Nat := magnitude.numerator / magnitude.denominator

/-- The integer nearest to a magnitude, the larger one of two that are equally near. -/
def Magnitude.roundUp (magnitude : Magnitude) : Nat :=
  (2 * magnitude.numerator + magnitude.denominator) / (2 * magnitude.denominator)

def Magnitude.isInteger (magnitude : Magnitude) : Bool :=
  magnitude.numerator % magnitude.denominator == 0

def minInt64 : Int := -0x8000000000000000

def maxInt64 : Int := 0x7fffffffffffffff

/-- The nearest integer of 64 bits. -/
def clampInt64 (value : Int) : Int := max minInt64 (min maxInt64 value)

/-- An integer with the sign of the number it comes from. -/
def signed (negative : Bool) (value : Nat) : Int := if negative then -(value : Int) else value

/-- The integer part, cut off toward zero and at the limits of 64 bits. -/
def truncate : Binary64 → Int
  | .nan => 0
  | .infinite negative => if negative then minInt64 else maxInt64
  | .finite negative magnitude => clampInt64 (signed negative magnitude.floor)

/-- The nearest integer within the limits of 64 bits; halves go away from zero. -/
def roundToInt : Binary64 → Int
  | .nan => 0
  | .infinite negative => if negative then minInt64 else maxInt64
  | .finite negative magnitude => clampInt64 (signed negative magnitude.roundUp)

/-- The nearest integer as a number; halves go away from zero and the sign stays. -/
def round : Binary64 → Binary64
  | .finite negative magnitude => ofRatio negative magnitude.roundUp 1
  | value => value

end Binary64

end CreatureNaming
