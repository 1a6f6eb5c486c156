import CreatureNaming.Function.Arithmetic
import CreatureNaming.Function.Basic
import CreatureNaming.Naming.Context
import CreatureNaming.Text.Case
import CreatureNaming.Text.Search
import CreatureNaming.Time.Letters

/-! What each function does with its arguments. -/

set_option autoImplicit false

namespace CreatureNaming

namespace Work

/-- The second argument if the first is more than blanks, else the third. -/
def ifText : Work String := do
  let condition ← argument 0
  if Text.allBlank condition then argument 2 else argument 1

def ifExpression : Work String := do
  let expression ← argument 0
  if comparisonHolds expression then argument 1 else argument 2

def expression : Work String := do
  let expression ← filled 0
  let value ← ofExcept (evaluate expression)
  return .ofList (Number.shortestText value)

/-- Two numbers, the second of which must not be zero. -/
def dividends : Work (Binary64 × Binary64) := do
  let value ← number 0
  let divisor ← number 1
  if divisor.isZero then throw .divisionByZero
  return (value, divisor)

/-- A quotient without its fraction. -/
def integerQuotient : Work String := do
  let (value, divisor) ← dividends
  return Number.integerText (value.div divisor).truncate

def formatted (result : Except Number.FormatError String) : Work String :=
  ofExcept (result.mapError FunctionError.format)

def quotient : Work String := do
  let (value, divisor) ← dividends
  match ← filled? 2 with
  | some format => formatted (Number.formatNumber (value.div divisor) (Text.trim format))
  | none => return .ofList (Number.shortestText (value.div divisor))

def length : Work String := do
  return Number.integerText (← argument 0).toList.length

def substring : Work String := do
  let text ← argument 0
  let start ← integer 1
  let length ← match ← filled? 2 with
    | some length => do pure (some (← ofExcept (readNumber length)).truncate)
    | none => pure none
  return .ofList (Text.slice text.toList start length)

/-- The replacement is evaluated only when there is something to find. -/
def replace : Work String := do
  let text ← argument 0
  let part ← argument 1
  if part.isEmpty then return text
  let replacement ← argument 2
  return .ofList (Text.replaceAll part.toList replacement.toList text.toList)

/-- The position of a text in another one; nothing when it is not found. -/
def indexOf : Work String := do
  let text ← argument 0
  let part ← argument 1
  return (Text.find? part.toList text.toList).elim "" fun position => Number.integerText position

/-- Fill a text up to a width with a character, a blank if none is given. -/
def pad (attach : (text padding : List Char) → List Char) : Work String := do
  let text ← argument 0
  let width ← integer 1
  if maxPadWidth < width then throw (.widthTooLarge width)
  let fill := (← argument 2).toList.headD ' '
  let missing := width.toNat - text.toList.length
  return .ofList (attach text.toList (List.replicate missing fill))

def casing : Work String := do
  let text ← argument 0
  let mode ← argument 1
  let mode := Text.trim mode
  match Text.foldCase mode with
  | "u" | "upper" => return Text.upper text
  | "l" | "lower" => return Text.lower text
  | "t" | "title" => return Text.title text
  | _ => throw (.unknownCasing mode)

/-- The text of a key in the table; else the default, if one is given, and the key if not. -/
def customReplace (replacements : Replacements) (count : Nat) : Work String := do
  let key ← argument 0
  match replacements.get? key with
  | some text => return text
  | none => if 1 < count then argument 1 else return key

/-- The color of a region, as its number or its name. Regions that the species does not use are
left out unless they are asked for. -/
def color (context : Context) : Work String := do
  let region ← integer 0
  if region < 0 then return ""
  let unused := context.species.any fun species => !species.usesRegion region.toNat
  if unused then
    if (← filled? 2).isNone then return ""
  match context.creature.colors[region.toNat]? with
  | none => return ""
  | some color =>
      match ← filled? 1 with
      | some _ => return (context.colors.get? color).getD ""
      | none => return Number.integerText color.toNat

def format : Work String := do
  let value ← number 0
  let format ← argument 1
  formatted (Number.formatNumber value (Text.trim format))

/-- An integer of 64 bits stays exact; any other number is rounded first. -/
def formatInteger : Work String := do
  let text ← filled 0
  let value ← match Number.readInt64? (Text.trim text) with
    | some value => pure value
    | none => do pure (← ofExcept (readNumber text)).roundToInt
  let format ← argument 1
  formatted (Number.formatInteger value (Text.trim format))

def defaultTimeFormat : String := "yyyy-MM-dd HH:mm:ss"

def time (now : Moment) : Work String := do
  let format := (← filled? 0).getD defaultTimeFormat
  let items := (Time.layoutItems? (Time.directives (Text.trim format).toList)).getD []
  return .ofList (Time.layout now.instant now.offset items)

end Work

/-- The work of a function that is called with `count` arguments. -/
def Function.work (context : Context) (count : Nat) : Function → Work String
  | .ifText => Work.ifText
  | .ifExpression => Work.ifExpression
  | .expression => Work.expression
  | .length => Work.length
  | .substring => Work.substring
  | .replace => Work.replace
  | .customReplace => Work.customReplace context.replacements count
  | .quotient => Work.quotient
  | .integerQuotient => Work.integerQuotient
  | .padLeft => Work.pad fun text padding => padding ++ text
  | .padRight => Work.pad fun text padding => text ++ padding
  | .casing => Work.casing
  | .time => Work.time context.now
  | .format => Work.format
  | .formatInteger => Work.formatInteger
  | .indexOf => Work.indexOf
  | .color => Work.color context

end CreatureNaming
