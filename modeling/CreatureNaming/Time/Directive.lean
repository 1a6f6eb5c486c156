import CreatureNaming.Time.Instant

/-! Layouts of time with percent directives.

A percent sign starts a directive, and every other character stands for itself.
-/

set_option autoImplicit false

namespace CreatureNaming.Time

/-- The fields of a local time, in the forms in which they are shown. -/
inductive TimeField where
  | yearShort
  | year
  | month (padded : Bool)
  | monthShort
  | monthName
  | day (padded : Bool)
  | weekdayShort
  | weekdayName
  | hour (padded : Bool)
  | hourOfHalf (padded : Bool)
  | minute (padded : Bool)
  | second (padded : Bool)
  | half
  | millis
  | micros
  | nanos
  | offset
  deriving DecidableEq, Repr

/-- A field or a character of a layout. -/
inductive LayoutItem where
  | field (shown : TimeField)
  | literal (char : Char)
  deriving DecidableEq, Repr

/-- The directive of a field, without its percent sign. -/
def TimeField.directive : TimeField → List Char
  | .yearShort => ['y']
  | .year => ['Y']
  | .month padded => if padded then ['m'] else ['-', 'm']
  | .monthShort => ['b']
  | .monthName => ['B']
  | .day padded => if padded then ['d'] else ['-', 'd']
  | .weekdayShort => ['a']
  | .weekdayName => ['A']
  | .hour padded => if padded then ['H'] else ['-', 'H']
  | .hourOfHalf padded => if padded then ['I'] else ['-', 'I']
  | .minute padded => if padded then ['M'] else ['-', 'M']
  | .second padded => if padded then ['S'] else ['-', 'S']
  | .half => ['p']
  | .millis => ['3', 'f']
  | .micros => ['6', 'f']
  | .nanos => ['9', 'f']
  | .offset => [':', 'z']

/-- An item written as a directive; a percent sign that stands for itself is doubled. -/
def LayoutItem.directive : LayoutItem → List Char
  | .field shown => '%' :: shown.directive
  | .literal char => if char = '%' then ['%', '%'] else [char]

/-- The field of a directive of one letter. -/
def letterField? : Char → Option TimeField
  | 'y' => some .yearShort
  | 'Y' => some .year
  | 'm' => some (.month true)
  | 'b' => some .monthShort
  | 'B' => some .monthName
  | 'd' => some (.day true)
  | 'a' => some .weekdayShort
  | 'A' => some .weekdayName
  | 'H' => some (.hour true)
  | 'I' => some (.hourOfHalf true)
  | 'M' => some (.minute true)
  | 'S' => some (.second true)
  | 'p' => some .half
  | _ => none

/-- The field of a letter that is shown without padding. -/
def unpaddedField? : Char → Option TimeField
  | 'm' => some (.month false)
  | 'd' => some (.day false)
  | 'H' => some (.hour false)
  | 'I' => some (.hourOfHalf false)
  | 'M' => some (.minute false)
  | 'S' => some (.second false)
  | _ => none

/-- Read a directive behind its percent sign. -/
def directive? : List Char → Option (LayoutItem × List Char)
  | '%' :: rest => some (.literal '%', rest)
  | '-' :: letter :: rest => (unpaddedField? letter).map fun field => (.field field, rest)
  | ':' :: 'z' :: rest => some (.field .offset, rest)
  | '3' :: 'f' :: rest => some (.field .millis, rest)
  | '6' :: 'f' :: rest => some (.field .micros, rest)
  | '9' :: 'f' :: rest => some (.field .nanos, rest)
  | letter :: rest => (letterField? letter).map fun field => (.field field, rest)
  | [] => none

theorem length_of_directive? {text rest : List Char} {item : LayoutItem}
    (h : directive? text = some (item, rest)) : rest.length < text.length := by
  unfold directive? at h
  split at h <;> simp_all [Option.map_eq_some_iff] <;> grind

/-- Read a layout; none when a percent sign starts no directive. -/
def layoutItems? (text : List Char) : Option (List LayoutItem) :=
  match text with
  | [] => some []
  | '%' :: rest =>
      match _found : directive? rest with
      | none => none
      | some (item, rest) => (layoutItems? rest).map (item :: ·)
  | char :: rest => (layoutItems? rest).map (.literal char :: ·)
termination_by text.length
decreasing_by
  · have := length_of_directive? _found; simp; omega
  · simp

/-- An offset from universal time, rounded to minutes. -/
def offsetText (offset : Int) : List Char :=
  let minutes := (offset.natAbs + 30) / 60
  (if offset < 0 then '-' else '+') :: padded 2 (minutes / 60) ++ ':' :: padded 2 (minutes % 60)

def numberText (isPadded : Bool) (value : Nat) : List Char := padded (if isPadded then 2 else 1) value

/-- A field of a local time. -/
def TimeField.text (clock : Clock) (offset : Int) (field : TimeField) : List Char :=
  let date := Date.ofDay clock.day
  let monthName := (monthNames[date.month - 1]?.getD "").toList
  let weekdayName := (weekdayNames[weekday clock.day]?.getD "").toList
  let hourOfHalf := if clock.hour % 12 = 0 then 12 else clock.hour % 12
  match field with
  | .yearShort => padded 2 (date.year % 100).toNat
  | .year => yearText date.year
  | .month isPadded => numberText isPadded date.month
  | .monthShort => monthName.take 3
  | .monthName => monthName
  | .day isPadded => numberText isPadded date.day
  | .weekdayShort => weekdayName.take 3
  | .weekdayName => weekdayName
  | .hour isPadded => numberText isPadded clock.hour
  | .hourOfHalf isPadded => numberText isPadded hourOfHalf
  | .minute isPadded => numberText isPadded clock.minute
  | .second isPadded => numberText isPadded clock.second
  | .half => if clock.hour < 12 then ['A', 'M'] else ['P', 'M']
  | .millis => padded 3 (clock.nanos / 1000000)
  | .micros => padded 6 (clock.nanos / 1000)
  | .nanos => padded 9 clock.nanos
  | .offset => offsetText offset

/-- Lay out a point in time as a clock shows it that is ahead of universal time by some
seconds. -/
def layout (instant : Instant) (offset : Int) (items : List LayoutItem) : List Char :=
  items.flatMap fun item =>
    match item with
    | .field field => field.text (instant.clock offset) offset
    | .literal char => [char]

end CreatureNaming.Time
