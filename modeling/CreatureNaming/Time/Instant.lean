import CreatureNaming.Number.Digits
import CreatureNaming.Text.Ascii
import CreatureNaming.Text.Blank
import CreatureNaming.Time.Calendar

/-! Points in time, and their text as date, time and offset. -/

set_option autoImplicit false

namespace CreatureNaming.Time

open Number

/-- Seconds since the start of 1970 in universal time, and nanoseconds after that second; a leap
second is a second with more than `10^9` of them. -/
structure Instant where
  seconds : Int
  nanos : Nat
  deriving DecidableEq, Repr

def Instant.before (first second : Instant) : Bool :=
  first.seconds < second.seconds ||
    (first.seconds == second.seconds && first.nanos < second.nanos)

/-- The time of a day, with the fields that are shown. -/
structure Clock where
  day : Int
  hour : Nat
  minute : Nat
  second : Nat
  nanos : Nat
  deriving DecidableEq, Repr

/-- What a clock shows that is ahead of universal time by some seconds. -/
def Instant.clock (instant : Instant) (offset : Int) : Clock :=
  let total := instant.seconds + offset
  let ofDay := (total % 86400).toNat
  ⟨total / 86400, ofDay / 3600, ofDay / 60 % 60, ofDay % 60 + instant.nanos / 1000000000,
    instant.nanos % 1000000000⟩

def padded (width value : Nat) : List Char := zeroPad width (decimalDigits value)

/-- A year of four digits; one that has more, or is negative, has a sign. -/
def yearText (year : Int) : List Char :=
  if 0 ≤ year && year < 10000 then padded 4 year.toNat
  else (if year < 0 then '-' else '+') :: padded 4 year.natAbs

/-- The fewest of three, six or nine digits of a fraction of a second that are exact. -/
def fractionText (nanos : Nat) : List Char :=
  if nanos = 0 then []
  else if nanos % 1000000 = 0 then '.' :: padded 3 (nanos / 1000000)
  else if nanos % 1000 = 0 then '.' :: padded 6 (nanos / 1000)
  else '.' :: padded 9 nanos

/-- Date and time in universal time. -/
def Instant.text (instant : Instant) : String :=
  let clock := instant.clock 0
  let date := Date.ofDay clock.day
  .ofList (yearText date.year ++ '-' :: padded 2 date.month ++ '-' :: padded 2 date.day ++
    'T' :: padded 2 clock.hour ++ ':' :: padded 2 clock.minute ++ ':' :: padded 2 clock.second ++
    fractionText clock.nanos ++ ['Z'])

/-- Read at least one and at most `most` digits. -/
def readNumber (most : Nat) (input : List Char) : Option (Nat × List Char) :=
  let digits := (input.take most).takeWhile Char.isDigit
  if digits.isEmpty then none else some (ofDigits digits, input.drop digits.length)

/-- Read a number of at most `most` digits, blanks before it allowed. -/
def readField (most : Nat) (input : List Char) : Option (Nat × List Char) :=
  readNumber most (Text.trimStartChars input)

/-- Read a character, blanks before it allowed. -/
def readMark (mark : Char) (input : List Char) : Option (List Char) :=
  match Text.trimStartChars input with
  | [] => none
  | first :: rest => if first = mark then some rest else none

/-- Read a year: four digits at most, or a sign and any number of digits. -/
def readYear (input : List Char) : Option (Int × List Char) :=
  match Text.trimStartChars input with
  | '-' :: rest => (readNumber rest.length rest).map fun (year, rest) => (-(year : Int), rest)
  | '+' :: rest => (readNumber rest.length rest).map fun (year, rest) => ((year : Int), rest)
  | rest => (readNumber 4 rest).map fun (year, rest) => ((year : Int), rest)

/-- Read a fraction of a second in nanoseconds; digits after the ninth are dropped. -/
def readFraction : List Char → Option (Nat × List Char)
  | '.' :: rest =>
      let digits := rest.takeWhile Char.isDigit
      if digits.isEmpty then none
      else
        let used := digits.take 9
        some (ofDigits used * Nat.pow 10 (9 - used.length), rest.dropWhile Char.isDigit)
  | rest => some (0, rest)

/-- Read an offset from universal time in seconds: a letter Z, the letters UTC, or a sign, hours
and minutes. -/
def readOffset (input : List Char) : Option (Int × List Char) :=
  if 3 ≤ input.length && (input.take 3).map Char.toUpper == ['U', 'T', 'C'] then
    some (0, input.drop 3)
  else
    match input with
    | [] => none
    | mark :: rest =>
        if mark = 'Z' || mark = 'z' then some (0, rest)
        else if mark = '+' || mark = '-' || mark = '−' then
          match rest with
          | h :: l :: rest =>
              match (rest.dropWhile fun c => c == ':' || Text.isBlank c) with
              | m :: k :: rest =>
                  if h.isDigit && l.isDigit && m.isDigit && k.isDigit && m < '6' then
                    let seconds : Int := ofDigits [h, l] * 3600 + ofDigits [m, k] * 60
                    some (if mark = '+' then seconds else -seconds, rest)
                  else none
              | _ => none
          | _ => none
        else none

/-- The years that instants may have, both in their own offset and in universal time. -/
def yearRange (year : Int) : Bool := -262143 ≤ year && year ≤ 262142

/-- Read date, time and offset. Date and time are separated by a letter T or a blank. -/
def Instant.read? (text : String) : Option Instant := do
  let (year, rest) ← readYear text.toList
  let rest ← readMark '-' rest
  let (month, rest) ← readField 2 rest
  let rest ← readMark '-' rest
  let (day, rest) ← readField 2 rest
  let rest ← match rest with
    | mark :: rest => if mark = 'T' || mark = 't' || mark = ' ' then some rest else none
    | [] => none
  let (hour, rest) ← readField 2 rest
  let rest ← readMark ':' rest
  let (minute, rest) ← readField 2 rest
  let rest ← readMark ':' rest
  let (second, rest) ← readField 2 rest
  let (nanos, rest) ← readFraction rest
  let (offset, rest) ← readOffset (Text.trimStartChars rest)
  let date : Date := ⟨year, month, day⟩
  guard (Text.trimStartChars rest).isEmpty
  guard (date.isValid && yearRange year)
  guard (hour < 24 && minute < 60 && second ≤ 60 && offset.natAbs < 86400)
  let leap := if second = 60 then 1 else 0
  let seconds := date.toDay * 86400 + hour * 3600 + minute * 60 + (second - leap : Nat) - offset
  guard (yearRange (Date.ofDay (seconds / 86400)).year)
  return ⟨seconds, nanos + leap * 1000000000⟩

end CreatureNaming.Time
