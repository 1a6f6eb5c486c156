import CreatureNaming.Json.Basic
import CreatureNaming.Number.Binary64

/-! The values of JSON numbers.

A number without point and exponent is an integer. Any other one, and an integer beyond 64 bits,
is read in double precision: the digits that fit 64 bits are scaled by one power of ten, which
is exact for numbers of up to 15 digits and may be off in the last bit for longer ones.
-/

set_option autoImplicit false

namespace CreatureNaming.Json

def maxUInt64 : Nat := UInt64.size - 1

def digitOf (c : Char) : Nat := c.toNat - '0'.toNat

/-- Take in digits as long as the number they form fits 64 bits; the rest is left. -/
def absorb (significand : Nat) : List Char → Nat × List Char
  | [] => (significand, [])
  | digit :: rest =>
      let next := significand * 10 + digitOf digit
      if maxUInt64 < next then (significand, digit :: rest) else absorb next rest

/-- The value of an integer between `-2^63` and `2^64 - 1`. A negative zero is none. -/
def Numeral.toInt? (numeral : Numeral) : Option Int :=
  if numeral.fraction.isSome || numeral.exponent.isSome then none
  else
    match absorb 0 numeral.whole with
    | (significand, []) =>
        if !numeral.negative then some significand
        else if significand != 0 && Binary64.minInt64 ≤ -(significand : Int) then some (-(significand : Int))
        else none
    | _ => none

/-- Scale by a power of ten in steps of at most 308 places; none when the number is too large. -/
def scaleTen (value : Binary64) (exponent : Int) : Option Binary64 :=
  if exponent.natAbs ≤ 308 then
    let power := Binary64.ofNat (Nat.pow 10 exponent.natAbs)
    if 0 ≤ exponent then
      let scaled := value.mul power
      if scaled.isFinite then some scaled else none
    else some (value.div power)
  else if value.isZero then some value
  else if 0 ≤ exponent then none
  else scaleTen (value.div (.ofNat (Nat.pow 10 308))) (exponent + 308)
termination_by exponent.natAbs

/-- Exponents are counted in 32 bits. -/
def maxExponent : Nat := 0x7fffffff

/-- The value of an exponent's digits; none when they do not fit 32 bits. -/
def exponentValue? (digits : List Char) : Option Nat :=
  digits.foldl
    (fun value digit => value.bind fun value =>
      let next := value * 10 + digitOf digit
      if maxExponent < next then none else some next)
    (some 0)

/-- The value in double precision; none when it is too large. -/
def Numeral.toBinary64? (numeral : Numeral) : Option Binary64 := do
  let (significand, dropped) := absorb 0 numeral.whole
  let fraction := numeral.fraction.getD []
  let (significand, ignored) := absorb significand fraction
  let places : Int := (dropped.length : Int) - ((fraction.length - ignored.length : Nat) : Int)
  let value := Binary64.ofNat significand
  let signed (value : Binary64) : Binary64 := if numeral.negative then value.negate else value
  match numeral.exponent with
  | none => (scaleTen value places).map signed
  | some (negative, digits) =>
      match exponentValue? digits with
      | none =>
          if significand != 0 && !negative then none else some (signed .zero)
      | some exponent =>
          let exponent : Int := if negative then places - exponent else places + exponent
          (scaleTen value (max (-maxExponent - 1) (min maxExponent exponent))).map signed

end CreatureNaming.Json
