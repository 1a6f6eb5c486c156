import CreatureNaming.Number.Layout

/-! Custom numeric formats.

A custom format has up to three sections between semicolons, for positive, negative and zero
values. A section is made of digit placeholders, a point, commas, percent signs and literals.
-/

set_option autoImplicit false

namespace CreatureNaming.Number

/-- A part of a section. -/
inductive FormatItem where
  /-- A digit placeholder; an `always` placeholder prints a zero where the number has no digit. -/
  | digit (always : Bool)
  | point
  | comma
  | percent
  | literal (text : List Char)
  deriving DecidableEq, Repr

def FormatItem.isDigit : FormatItem → Bool
  | .digit _ => true
  | _ => false

def isQuote (c : Char) : Bool := c == '\'' || c == '"'

def prependFirst (c : Char) : List (List Char) → List (List Char)
  | [] => [[c]]
  | first :: rest => (c :: first) :: rest

/-- Split at the semicolons that are neither quoted nor escaped; `quote` is the quotation mark
that is open. A backslash protects the next character in quotes too. -/
def splitSections (quote : Option Char) : List Char → List (List Char)
  | [] => [[]]
  | '\\' :: next :: rest => prependFirst '\\' (prependFirst next (splitSections quote rest))
  | c :: rest =>
      match quote with
      | some mark =>
          prependFirst c (splitSections (if c = mark then none else some mark) rest)
      | none =>
          if c = ';' then [] :: splitSections none rest
          else prependFirst c (splitSections (if isQuote c then some c else none) rest)

/-- What follows the next character of a kind. -/
def afterNext (mark : Char) (text : List Char) : List Char :=
  (text.dropWhile (· != mark)).drop 1

theorem length_afterNext_le (mark : Char) (text : List Char) :
    (afterNext mark text).length ≤ text.length := by
  have := (List.dropWhile_sublist (l := text) (· != mark)).length_le
  simp only [afterNext, List.length_drop]
  omega

/-- Read the parts of a section. Only the first point counts; a backslash makes the next
character a literal, and quotes all characters up to the next one of their kind. -/
def formatItems (pointSeen : Bool) : List Char → List FormatItem
  | [] => []
  | '\\' :: next :: rest => .literal [next] :: formatItems pointSeen rest
  | ['\\'] => []
  | c :: rest =>
      if c = '0' then .digit true :: formatItems pointSeen rest
      else if c = '#' then .digit false :: formatItems pointSeen rest
      else if c = '.' then
        if pointSeen then formatItems true rest else .point :: formatItems true rest
      else if c = ',' then .comma :: formatItems pointSeen rest
      else if c = '%' then .percent :: formatItems pointSeen rest
      else if isQuote c then
        .literal (rest.takeWhile (· != c)) :: formatItems pointSeen (afterNext c rest)
      else .literal [c] :: formatItems pointSeen rest
termination_by text => text.length
decreasing_by
  all_goals simp only [List.length_cons]
  all_goals grind [length_afterNext_le]

/-- The parts before the point. -/
def wholeItems (items : List FormatItem) : List FormatItem := items.takeWhile (· != .point)

/-- The parts behind the point. -/
def fractionItems (items : List FormatItem) : List FormatItem :=
  (items.dropWhile (· != .point)).drop 1

/-- What stands behind the last digit placeholder; nothing when there is none. -/
def afterLastDigit (items : List FormatItem) : List FormatItem :=
  if items.any FormatItem.isDigit then
    (items.reverse.takeWhile fun item => !item.isDigit).reverse
  else []

/-- What stands between the first and the last digit placeholder, both included. -/
def betweenDigits (items : List FormatItem) : List FormatItem :=
  let behind := items.dropWhile fun item => !item.isDigit
  (behind.reverse.dropWhile fun item => !item.isDigit).reverse

/-- Commas right behind the last digit placeholder divide by a thousand each. -/
def thousands (whole : List FormatItem) : Nat :=
  ((afterLastDigit whole).takeWhile (· == .comma)).length

/-- A comma between digit placeholders groups the digits. -/
def groups (whole : List FormatItem) : Bool := (betweenDigits whole).contains .comma

/-- The placeholders from the first `0` on always print a digit. -/
def leastWhole (whole : List FormatItem) : Nat :=
  ((whole.filter FormatItem.isDigit).dropWhile (· == .digit false)).length

/-- The placeholders up to the last `0` always print a digit. -/
def leastFraction (fraction : List FormatItem) : Nat :=
  ((fraction.filter FormatItem.isDigit).reverse.dropWhile (· == .digit false)).length

/-- Multiply by a hundred for each percent sign, then divide by a thousand for each comma that
scales. -/
def scaleBy (percents commas : Nat) (value : Binary64) : Binary64 :=
  (List.replicate commas ()).foldl (fun value _ => value.div (.ofNat 1000))
    ((List.replicate percents ()).foldl (fun value _ => value.mul (.ofNat 100)) value)

/-- Drop zeros from the end of a list as long as it is longer than `least`. -/
def dropZeros (least : Nat) (digits : List Char) : List Char :=
  digits.take least ++ dropEndWhile (· == '0') (digits.drop least)

/-- Digits from right to left, `printed` of them being printed already. -/
def groupedDigits (grouping : Bool) (printed : Nat) : List Char → List Char
  | [] => []
  | digit :: rest =>
      (if grouping && printed != 0 && printed % 3 == 0 then [','] else []) ++
        digit :: groupedDigits grouping (printed + 1) rest

/-- Lay out the whole part from right to left. Each placeholder takes a digit, and the leftmost
one all that remain. The result is the text, from right to left, and the digits left over. -/
def layoutWhole (grouping : Bool) (printed : Nat) :
    (items : List FormatItem) → (digits : List Char) → List Char × List Char
  | [], digits => ([], digits)
  | .digit _ :: items, digits =>
      let taken := if items.any FormatItem.isDigit then digits.take 1 else digits
      let left := if items.any FormatItem.isDigit then digits.drop 1 else []
      let (text, left) := layoutWhole grouping (printed + taken.length) items left
      (groupedDigits grouping printed taken ++ text, left)
  | .percent :: items, digits =>
      let (text, left) := layoutWhole grouping printed items digits
      ('%' :: text, left)
  | .literal chars :: items, digits =>
      let (text, left) := layoutWhole grouping printed items digits
      (chars.reverse ++ text, left)
  | .comma :: items, digits => layoutWhole grouping printed items digits
  | .point :: items, digits => layoutWhole grouping printed items digits

/-- Lay out the fraction from left to right. -/
def layoutFraction : (items : List FormatItem) → (digits : List Char) → List Char
  | [], _ => []
  | .digit _ :: items, digits => digits.take 1 ++ layoutFraction items (digits.drop 1)
  | .percent :: items, digits => '%' :: layoutFraction items digits
  | .literal chars :: items, digits => chars ++ layoutFraction items digits
  | .comma :: items, digits => layoutFraction items digits
  | .point :: items, digits => layoutFraction items digits

/-- Lay out a value that is not negative; `negative` asks for a sign, which a value without a
digit other than zero does not get. -/
def renderSection (format : List Char) (value : Binary64) (negative : Bool) : List Char :=
  let items := formatItems false format
  let whole := wholeItems items
  let fraction := fractionItems items
  let places := (fraction.filter FormatItem.isDigit).length
  let scaled := scaleBy (items.count .percent) (thousands whole) value
  let rounded := fixed scaled places
  let wholeDigits :=
    zeroPad (leastWhole whole) ((rounded.takeWhile (· != '.')).dropWhile (· == '0'))
  let fractionDigits :=
    dropZeros (leastFraction fraction) ((rounded.dropWhile (· != '.')).drop 1)
  let (text, left) := layoutWhole (groups whole) 0 whole.reverse wholeDigits.reverse
  let left := if whole.any FormatItem.isDigit || places != 0 then left else []
  let nonzero := (wholeDigits ++ fractionDigits).any (· != '0')
  (if negative && nonzero then ['-'] else []) ++
    (text ++ groupedDigits (groups whole) 0 left).reverse ++
    (if fractionDigits.isEmpty then [] else ['.']) ++
    layoutFraction fraction fractionDigits

/-- Format by the section for the value's sign; an empty or missing section leaves the value to
the first one. -/
def customText (value : Binary64) (format : List Char) : List Char :=
  match specialText? value with
  | some text => text
  | none =>
      let sections := splitSections none format
      let given (index : Nat) : Option (List Char) := sections[index]?.filter fun s => !s.isEmpty
      let negative := value.less .zero
      let chosen := if negative then given 1 else if value.isZero then given 2 else none
      match chosen with
      | some text => renderSection text value.abs false
      | none => renderSection (sections.headD []) value.abs negative

end CreatureNaming.Number
