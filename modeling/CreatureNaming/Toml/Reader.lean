import CreatureNaming.Table
import CreatureNaming.Toml.Quoted

/-! Reading the part of TOML that settings are written in.

A document is a list of lines `key = value`, each key given once, with comments and empty lines
between them. A value is an integer, a string, or an array of strings. Tables, dotted keys and
values of other kinds have no place in settings and are refused.

Each reader takes something off the front of the input and returns the rest.
-/

set_option autoImplicit false

namespace CreatureNaming.Toml

inductive Value where
  | integer (value : Int)
  | text (value : String)
  | texts (values : List String)
  deriving DecidableEq, Repr

/-- A document's values by their keys, in the order of the document. -/
abbrev Document : Type := Table String Value

def skipBlanks (input : List Char) : List Char := input.dropWhile isBlank

/-- Read the rest of a line: blanks, perhaps a comment, and the line break or the end of the
input. -/
def lineEnd? (input : List Char) : Option (List Char) :=
  let rest :=
    match skipBlanks input with
    | '#' :: rest => rest.dropWhile isPrintable
    | rest => rest
  match rest with
  | [] => some []
  | '\n' :: rest => some rest
  | _ => none

/-- Pass over blanks, line breaks and comments. -/
def skipSpace (inComment : Bool) : List Char → List Char
  | [] => []
  | c :: rest =>
      if c == '\n' then skipSpace false rest
      else if inComment then if isPrintable c then skipSpace true rest else c :: rest
      else if c == '#' then skipSpace true rest
      else if isBlank c then skipSpace false rest
      else c :: rest

def isKeyChar (c : Char) : Bool := c.isAlphanum || c == '-' || c == '_'

/-- Read a key: a run of letters, digits, `-` and `_`, or a string on one line. -/
def key? (input : List Char) : Option (String × List Char) :=
  match Delimiter.open? input with
  | some (delimiter, rest) => if delimiter.multiline then none else quoted? delimiter rest
  | none =>
      match input.takeWhile isKeyChar with
      | [] => none
      | found => some (.ofList found, input.dropWhile isKeyChar)

/-- Whether each underscore stands between two digits. -/
def isGrouped : List Char → Bool
  | [] => false
  | [last] => last != '_'
  | '_' :: _ => false
  | _ :: '_' :: rest => isGrouped rest
  | _ :: rest => isGrouped rest

/-- Read digits of a radix, underscores allowed between them. -/
def digits? (radix : Nat) (input : List Char) : Option (List Char × List Char) :=
  let isDigit (c : Char) : Bool := (Text.hexValue? c).any fun value => value < radix
  let belongs (c : Char) : Bool := isDigit c || c == '_'
  let found := input.takeWhile belongs
  if isGrouped found then some (found.filter isDigit, input.dropWhile belongs) else none

/-- The number that digits of a radix stand for. -/
def ofDigits (radix : Nat) (digits : List Char) : Nat :=
  digits.foldl (fun n c => n * radix + (Text.hexValue? c).getD 0) 0

/-- Read an integer without a sign. A decimal one has no leading zeros. -/
def natural? : List Char → Option (Nat × List Char)
  | '0' :: 'x' :: rest => (digits? 16 rest).map fun (found, rest) => (ofDigits 16 found, rest)
  | '0' :: 'o' :: rest => (digits? 8 rest).map fun (found, rest) => (ofDigits 8 found, rest)
  | '0' :: 'b' :: rest => (digits? 2 rest).map fun (found, rest) => (ofDigits 2 found, rest)
  | input => decimal? input
where
  decimal? (input : List Char) : Option (Nat × List Char) :=
    match digits? 10 input with
    | some ('0' :: _ :: _, _) | none => none
    | some (found, rest) => some (ofDigits 10 found, rest)

/-- Read an integer; it has at most 64 bits. Only decimal digits may have a sign. -/
def integer? (input : List Char) : Option (Int × List Char) := do
  let (value, rest) ←
    match input with
    | '+' :: rest => (natural?.decimal? rest).map fun (n, rest) => ((n : Int), rest)
    | '-' :: rest => (natural?.decimal? rest).map fun (n, rest) => (-(n : Int), rest)
    | rest => (natural? rest).map fun (n, rest) => ((n : Int), rest)
  if Int64.minValue.toInt ≤ value && value ≤ Int64.maxValue.toInt then some (value, rest) else none

/-- Read a string. -/
def text? (input : List Char) : Option (String × List Char) := do
  let (delimiter, rest) ← Delimiter.open? input
  quoted? delimiter rest

/-- Read the strings of an array up to its closing bracket. A comma may follow the last one. -/
def texts? (fuel : Nat) (input : List Char) : Option (List String × List Char) :=
  match fuel with
  | 0 => none
  | fuel + 1 =>
      match skipSpace false input with
      | ']' :: rest => some ([], rest)
      | input => do
          let (first, rest) ← text? input
          match skipSpace false rest with
          | ',' :: rest =>
              let (others, rest) ← texts? fuel rest
              return (first :: others, rest)
          | ']' :: rest => return ([first], rest)
          | _ => none

def value? : List Char → Option (Value × List Char)
  | '[' :: rest =>
      (texts? (rest.length + 1) rest).map fun (values, rest) => (.texts values, rest)
  | input =>
      match text? input with
      | some (value, rest) => some (.text value, rest)
      | none => (integer? input).map fun (value, rest) => (.integer value, rest)

/-- Read a key, its value and the rest of the line. -/
def entry? (input : List Char) : Option ((String × Value) × List Char) := do
  let (key, rest) ← key? (skipBlanks input)
  match skipBlanks rest with
  | '=' :: rest =>
      let (value, rest) ← value? (skipBlanks rest)
      return ((key, value), ← lineEnd? rest)
  | _ => none

/-- Read all lines; no key may stand in `document` already. -/
def lines? (fuel : Nat) (document : Document) (input : List Char) : Option Document :=
  match fuel with
  | 0 => none
  | fuel + 1 =>
      match input with
      | [] => some document
      | input =>
          match lineEnd? input with
          | some rest => lines? fuel document rest
          | none => do
              let ((key, value), rest) ← entry? input
              if (Table.get? key document).isSome then none
              else lines? fuel (Table.put key value document) rest

/-- A line may end in a carriage return and a line feed. -/
def joinLineBreaks : List Char → List Char
  | '\r' :: '\n' :: rest => '\n' :: joinLineBreaks rest
  | c :: rest => c :: joinLineBreaks rest
  | [] => []

/-- Read a whole document; a byte order mark at its start is passed over. Each line is paid for
by a character of the input. -/
def parse? (text : String) : Option Document :=
  let input := joinLineBreaks <|
    match text.toList with
    | '\ufeff' :: rest => rest
    | input => input
  lines? (input.length + 1) [] input

end CreatureNaming.Toml
