import CreatureNaming.Number.Binary64
import CreatureNaming.Number.Digits
import CreatureNaming.Text.Ascii
import CreatureNaming.Text.Blank

/-! Numerals as people write them, and the number nearest to one. -/

set_option autoImplicit false

namespace CreatureNaming.Number

/-- A decimal numeral: `digits · 10^exponent` with a sign. -/
structure Numeral where
  negative : Bool
  digits : List Char
  exponent : Int
  deriving DecidableEq, Repr

/-- Split off an optional sign. -/
def splitSign : List Char → Bool × List Char
  | '-' :: rest => (true, rest)
  | '+' :: rest => (false, rest)
  | rest => (false, rest)

/-- Digits with an optional sign, and nothing else. -/
def signedDigits? (text : List Char) : Option Int :=
  let (negative, digits) := splitSign text
  if digits.isEmpty || !digits.all Char.isDigit then none
  else some (if negative then -(ofDigits digits : Int) else ofDigits digits)

/-- What follows the digits of a numeral: nothing, or a marker and a signed exponent. -/
def exponentPart? : List Char → Option Int
  | [] => some 0
  | marker :: rest => if marker == 'e' || marker == 'E' then signedDigits? rest else none

/-- A numeral is an optional sign, digits with an optional point and at least one digit, and an
optional exponent. -/
def numeral? (text : List Char) : Option Numeral :=
  let (negative, rest) := splitSign text
  let whole := rest.takeWhile Char.isDigit
  let rest := rest.dropWhile Char.isDigit
  let (fraction, rest) :=
    match rest with
    | '.' :: rest => (rest.takeWhile Char.isDigit, rest.dropWhile Char.isDigit)
    | rest => ([], rest)
  if whole.isEmpty && fraction.isEmpty then none
  else (exponentPart? rest).map fun exponent =>
    ⟨negative, whole ++ fraction, exponent - fraction.length⟩

/-- The number nearest to a numeral. A numeral beyond every power of ten that matters is read
without its exponent being computed. -/
def Numeral.toBinary64 (numeral : Numeral) : Binary64 :=
  let digits := ofDigits numeral.digits
  let size := numeral.exponent + numeral.digits.length
  if digits = 0 then .finite numeral.negative .zero
  else if size < -400 then .finite numeral.negative .zero
  else if 400 < numeral.exponent then .infinite numeral.negative
  else .ofRatio numeral.negative (digits * Nat.pow 10 numeral.exponent.toNat)
    (Nat.pow 10 (-numeral.exponent).toNat)

/-- The names of what is no finite number. -/
def special? (text : List Char) : Option Binary64 :=
  let (negative, rest) := splitSign text
  match Text.foldCase (.ofList rest) with
  | "inf" => some (.infinite negative)
  | "infinity" => some (.infinite negative)
  | "nan" => some .nan
  | _ => none

/-- Read a numeral or the name of a special value. -/
def read? (text : String) : Option Binary64 :=
  match numeral? text.toList with
  | some numeral => some numeral.toBinary64
  | none => special? text.toList

/-- Read a finite number, blanks around it allowed. -/
def readFinite? (text : String) : Option Binary64 :=
  (read? (Text.trim text)).filter Binary64.isFinite

/-- Read an integer of 64 bits, without blanks. -/
def readInt64? (text : String) : Option Int :=
  (signedDigits? text.toList).filter fun value =>
    Binary64.minInt64 ≤ value && value ≤ Binary64.maxInt64

/-- Read an integer of 64 bits that has no sign, or a plus sign. -/
def readUInt64? (text : String) : Option UInt64 :=
  let digits :=
    match text.toList with
    | '+' :: rest => rest
    | rest => rest
  if digits.isEmpty || !digits.all Char.isDigit || UInt64.size ≤ ofDigits digits then none
  else some (.ofNat (ofDigits digits))

end CreatureNaming.Number
