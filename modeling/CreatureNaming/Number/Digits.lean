/-! Digit texts of natural numbers. -/

set_option autoImplicit false

namespace CreatureNaming.Number

/-- The decimal digits of a number, without leading zeros; a zero has one digit. -/
def decimalDigits (n : Nat) : List Char := Nat.toDigits 10 n

/-- The hexadecimal digits of a number in lower case. -/
def hexDigits (n : Nat) : List Char := Nat.toDigits 16 n

/-- Put zeros in front until a text has `width` characters. -/
def zeroPad (width : Nat) (digits : List Char) : List Char :=
  List.replicate (width - digits.length) '0' ++ digits

/-- The number that decimal digits stand for. -/
def ofDigits (digits : List Char) : Nat :=
  digits.foldl (fun n c => n * 10 + (c.toNat - '0'.toNat)) 0

/-- The decimal text of an integer. -/
def integerText (value : Int) : String :=
  .ofList ((if value < 0 then ['-'] else []) ++ decimalDigits value.natAbs)

theorem integerText_natCast (number : Nat) :
    integerText number = .ofList (decimalDigits number) := by
  simp [integerText, Int.not_lt.mpr (Int.natCast_nonneg number)]

theorem integerText_natCast_inj {first second : Nat}
    (same : integerText first = integerText second) : first = second := by
  rw [integerText_natCast, integerText_natCast] at same
  have digits : Nat.toDigits 10 first = Nat.toDigits 10 second := String.ofList_injective same
  rw [← Nat.ofDigitChars_ten_toDigits (n := first), digits, Nat.ofDigitChars_ten_toDigits]

/-- `digits · 10^exponent` written with a point where one is needed and without an exponent. -/
def positional (digits : Nat) (exponent : Int) : List Char :=
  let written := decimalDigits digits
  if 0 ≤ exponent then
    if digits = 0 then ['0'] else written ++ List.replicate exponent.toNat '0'
  else
    let places := (-exponent).toNat
    let padded := zeroPad (places + 1) written
    padded.take (padded.length - places) ++ '.' :: padded.drop (padded.length - places)

end CreatureNaming.Number
