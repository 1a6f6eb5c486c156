import CreatureNaming.Number.Decimal

/-! Layouts of numbers that the standard formats share.

Midpoints go away from zero as long as scaling by a power of ten is exact enough; beyond that
the exact value is rounded, a midpoint going to the even digit.
-/

set_option autoImplicit false

namespace CreatureNaming.Number

/-- The most places at which a value is rounded by scaling it. -/
def maxScaledPlaces : Nat := 15

/-- Round to a number of places by scaling up, rounding and scaling down. -/
def roundHalfAway (value : Binary64) (places : Nat) : Binary64 :=
  if maxScaledPlaces < places || !value.isFinite then value
  else
    let scale := Binary64.ofNat (Nat.pow 10 places)
    let scaled := value.mul scale
    if !scaled.isFinite || !scaled.abs.less (.ofNat (Nat.pow 10 17)) then value
    else scaled.round.div scale

/-- The exact value rounded to a number of places, with its sign. -/
def placesText (value : Binary64) (places : Nat) : List Char :=
  match value with
  | .nan => ['N', 'a', 'N']
  | .infinite negative => (if negative then ['-'] else []) ++ ['i', 'n', 'f']
  | .finite negative magnitude => (if negative then ['-'] else []) ++ fixedText places magnitude

/-- Drop the sign of a text in which every digit is zero. -/
def stripNegativeZero : List Char → List Char
  | '-' :: rest => if rest.all fun c => c == '0' || c == '.' then rest else '-' :: rest
  | text => text

/-- A number with a fixed number of places. -/
def fixed (value : Binary64) (places : Nat) : List Char :=
  stripNegativeZero (placesText (roundHalfAway value places) places)

/-- Drop what matches at the end. -/
def dropEndWhile (drop : Char → Bool) (text : List Char) : List Char :=
  (text.reverse.dropWhile drop).reverse

/-- Without the zeros at the end of a fraction, and without a point that is then bare. -/
def trimFraction (text : List Char) : List Char :=
  if text.contains '.' then dropEndWhile (· == '.') (dropEndWhile (· == '0') text) else text

/-- A number with at most a number of places. -/
def fixedTrimmed (value : Binary64) (places : Nat) : List Char := trimFraction (fixed value places)

/-- A sign and at least `width` digits. -/
def signedExponent (exponent : Int) (width : Nat) : List Char :=
  (if exponent < 0 then '-' else '+') :: zeroPad width (decimalDigits exponent.natAbs)

/-- The words for what is no finite number. -/
def specialText? : Binary64 → Option (List Char)
  | .nan => some "NaN".toList
  | .infinite false => some "Infinity".toList
  | .infinite true => some "-Infinity".toList
  | .finite _ _ => none

def signText (negative : Bool) : List Char := if negative then ['-'] else []

/-- The fewest digits that read back; outside of `10^-4` to `10^15` with an exponent. Zero has
no sign. -/
def shortestText : Binary64 → List Char
  | .finite negative magnitude =>
      let decimal := shortest .up magnitude
      let sign := signText (negative && magnitude.mantissa != 0)
      let scientific := decimal.scientific
      if -4 ≤ scientific.exponent && scientific.exponent < 15 then sign ++ decimal.positionalText
      else sign ++ scientific.mantissaText ++ 'E' :: signedExponent scientific.exponent 2
  | value => (specialText? value).getD []

/-- Put a comma before each group of three digits that others precede. -/
def groupDigits : List Char → List Char
  | [] => []
  | first :: rest =>
      if rest.length % 3 = 0 && !rest.isEmpty then first :: ',' :: groupDigits rest
      else first :: groupDigits rest

/-- Group the digits before the point. -/
def grouped (text : List Char) : List Char :=
  let (sign, unsigned) :=
    match text with
    | '-' :: rest => (['-'], rest)
    | rest => ([], rest)
  sign ++ groupDigits (unsigned.takeWhile (· != '.')) ++ unsigned.dropWhile (· != '.')

/-- One digit, `places` more behind a point, and an exponent of at least `width` digits. -/
def exponential (value : Binary64) (places : Nat) (marker : Char) (width : Nat) : List Char :=
  match value with
  | .finite negative magnitude =>
      let number := significant places magnitude
      signText negative ++ number.mantissaText ++ marker :: signedExponent number.exponent width
  | value => (specialText? value).getD []

/-- The digit count `precision`, with an exponent only where it is below -4 or too large for the
digits. -/
def general (value : Binary64) (precision : Nat) (marker : Char) : List Char :=
  match value with
  | .finite negative magnitude =>
      if precision = 0 then shortestText value
      else
        let number := significant (precision - 1) magnitude
        if -4 ≤ number.exponent && number.exponent < precision then
          fixedTrimmed value ((precision : Int) - 1 - number.exponent).toNat
        else
          signText negative ++ trimFraction number.mantissaText ++
            marker :: signedExponent number.exponent 2
  | value => (specialText? value).getD []

end CreatureNaming.Number
