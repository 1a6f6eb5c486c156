import CreatureNaming.Number.Format.Custom

/-! Numeric format strings.

A standard format is a letter with at most two digits of precision; every other text is a custom
format.
-/

set_option autoImplicit false

namespace CreatureNaming.Number

inductive FormatError where
  /-- The format prints integers only. -/
  | integerRequired (format : String)
  /-- No standard format has this letter. -/
  | invalidFormat (format : String)
  deriving DecidableEq, Repr

def FormatError.message : FormatError → String
  | .integerRequired format => s!"format '{format}' requires an integer"
  | .invalidFormat format => s!"invalid format '{format}'"

/-- A letter, and a precision of at most two digits. -/
def standardFormat? (format : List Char) : Option (Char × Option Nat) :=
  match format with
  | [] => none
  | letter :: digits =>
      if !letter.isAlpha || 2 < digits.length || !digits.all Char.isDigit then none
      else some (letter, if digits.isEmpty then none else some (ofDigits digits))

/-- The value of a number that is an integer below `2^63` in size. -/
def integer? : Binary64 → Option Int
  | .finite negative magnitude =>
      if magnitude.isInteger && magnitude.floor ≤ Binary64.maxInt64 then
        some (Binary64.signed negative magnitude.floor)
      else none
  | _ => none

/-- At least `width` decimal digits, behind a sign if the integer is negative. -/
def decimalText (value : Int) (width : Nat) : List Char :=
  signText (value < 0) ++ zeroPad width (decimalDigits value.natAbs)

/-- At least `width` hexadecimal digits of the integer modulo `2^64`. -/
def hexText (value : Int) (upper : Bool) (width : Nat) : List Char :=
  let digits := hexDigits (value % UInt64.size).toNat
  zeroPad width (if upper then digits.map Char.toUpper else digits)

/-- Lay out an integer by one of the letters that print integers only. -/
def integerLetter? (value : Int) (letter : Char) (precision : Option Nat) : Option (List Char) :=
  if letter.toLower = 'd' then some (decimalText value (precision.getD 0))
  else if letter.toLower = 'x' then some (hexText value (letter == 'X') (precision.getD 0))
  else none

/-- Lay out a number by a standard format. -/
def standardText (value : Binary64) (letter : Char) (precision : Option Nat) (format : String) :
    Except FormatError (List Char) :=
  match specialText? value with
  | some text => .ok text
  | none =>
      let marker := if letter.isUpper then 'E' else 'e'
      match letter.toLower with
      | 'f' => .ok (fixed value (precision.getD 2))
      | 'n' => .ok (grouped (fixed value (precision.getD 2)))
      | 'p' => .ok (grouped (fixed (value.mul (.ofNat 100)) (precision.getD 2)) ++ ['%'])
      | 'e' => .ok (exponential value (precision.getD 6) marker 3)
      | 'g' => .ok (general value (precision.getD 0) marker)
      | 'r' => .ok (shortestText value)
      | 'd' | 'x' =>
          match (integer? value).bind fun integer => integerLetter? integer letter precision with
          | some text => .ok text
          | none => .error (.integerRequired format)
      | _ => .error (.invalidFormat format)

/-- Format a number. -/
def formatNumber (value : Binary64) (format : String) : Except FormatError String :=
  let chars := format.toList
  if chars.isEmpty then .ok (.ofList (shortestText value))
  else
    match standardFormat? chars with
    | some (letter, precision) => (standardText value letter precision format).map String.ofList
    | none => .ok (.ofList (customText value chars))

/-- Format an integer; only a format that is not for integers sees the nearest number. -/
def formatInteger (value : Int) (format : String) : Except FormatError String :=
  match (standardFormat? format.toList).bind fun (letter, precision) =>
      integerLetter? value letter precision with
  | some text => .ok (.ofList text)
  | none => formatNumber (.ofInt value) format

end CreatureNaming.Number
