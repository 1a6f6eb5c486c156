import CreatureNaming.Json.Quoted

/-! Reading JSON documents.

Each reader takes something off the front of the input and returns the rest.
-/

set_option autoImplicit false

namespace CreatureNaming.Json

def isBlank (c : Char) : Bool := c == ' ' || c == '\n' || c == '\t' || c == '\r'

def skipBlanks (input : List Char) : List Char := input.dropWhile isBlank

/-- Split off the leading decimal digits. -/
def digits (input : List Char) : List Char × List Char :=
  (input.takeWhile Char.isDigit, input.dropWhile Char.isDigit)

/-- Read a point and the digits after it; none when no digit follows the point. -/
def fraction? : List Char → Option (Option (List Char) × List Char)
  | '.' :: rest =>
      match digits rest with
      | ([], _) => none
      | (found, rest) => some (some found, rest)
  | input => some (none, input)

/-- Read an exponent; none when it has no digits. -/
def exponent? : List Char → Option (Option (Bool × List Char) × List Char)
  | [] => some (none, [])
  | marker :: rest =>
      if marker == 'e' || marker == 'E' then
        let (negative, rest) :=
          match rest with
          | '+' :: rest => (false, rest)
          | '-' :: rest => (true, rest)
          | rest => (false, rest)
        match digits rest with
        | ([], _) => none
        | (found, rest) => some (some (negative, found), rest)
      else some (none, marker :: rest)

/-- Read a number. The whole part is a zero, or digits of which the first is no zero. -/
def numeral? (input : List Char) : Option (Numeral × List Char) := do
  let (negative, rest) :=
    match input with
    | '-' :: rest => (true, rest)
    | rest => (false, rest)
  let (whole, rest) := digits rest
  match whole with
  | [] => none
  | '0' :: _ :: _ => none
  | whole =>
      let (fraction, rest) ← fraction? rest
      let (exponent, rest) ← exponent? rest
      return (⟨negative, whole, fraction, exponent⟩, rest)

/-- Read what stands between quotes, up to and including the closing quote; control characters
and unknown escapes are refused. -/
def quoted? : List Char → Option (List Char × List Char)
  | '"' :: rest => some ([], rest)
  | '\\' :: 'u' :: a :: b :: c :: d :: rest =>
      match hexUnit? a b c d, quoted? rest with
      | some _, some (found, rest) => some ('\\' :: 'u' :: a :: b :: c :: d :: found, rest)
      | _, _ => none
  | '\\' :: c :: rest =>
      match shortEscape? c, quoted? rest with
      | some _, some (found, rest) => some ('\\' :: c :: found, rest)
      | _, _ => none
  | c :: rest =>
      if c == '\\' || c.toNat < 0x20 then none
      else
        match quoted? rest with
        | some (found, rest) => some (c :: found, rest)
        | none => none
  | [] => none

/-- Read a word that must stand at the front. -/
def word? (word : String) (input : List Char) : Option (List Char) :=
  if word.toList.isPrefixOf input then some (input.drop word.length) else none

mutual

/-- Read a value, blanks before it allowed. -/
def value? (fuel : Nat) (input : List Char) : Option (Json × List Char) :=
  match fuel with
  | 0 => none
  | fuel + 1 =>
      match skipBlanks input with
      | [] => none
      | '"' :: rest => (quoted? rest).map fun (found, rest) => (.string ⟨.ofList found⟩, rest)
      | '[' :: rest =>
          match skipBlanks rest with
          | ']' :: rest => some (.array [], rest)
          | rest => (items? fuel rest).map fun (items, rest) => (.array items, rest)
      | '{' :: rest =>
          match skipBlanks rest with
          | '}' :: rest => some (.object [], rest)
          | rest => (members? fuel rest).map fun (members, rest) => (.object members, rest)
      | first :: rest =>
          if first == '-' || first.isDigit then
            (numeral? (first :: rest)).map fun (numeral, rest) => (.number numeral, rest)
          else if first == 'n' then (word? "null" (first :: rest)).map fun rest => (.null, rest)
          else if first == 't' then
            (word? "true" (first :: rest)).map fun rest => (.bool true, rest)
          else if first == 'f' then
            (word? "false" (first :: rest)).map fun rest => (.bool false, rest)
          else none

/-- Read the items of an array that has at least one, and its closing bracket. -/
def items? (fuel : Nat) (input : List Char) : Option (List Json × List Char) :=
  match fuel with
  | 0 => none
  | fuel + 1 =>
      match value? fuel input with
      | none => none
      | some (item, rest) =>
          match skipBlanks rest with
          | ',' :: rest => (items? fuel rest).map fun (items, rest) => (item :: items, rest)
          | ']' :: rest => some ([item], rest)
          | _ => none

/-- Read the members of an object that has at least one, and its closing brace. -/
def members? (fuel : Nat) (input : List Char) : Option (List (Quoted × Json) × List Char) :=
  match fuel with
  | 0 => none
  | fuel + 1 =>
      match skipBlanks input with
      | '"' :: rest =>
          match quoted? rest with
          | none => none
          | some (key, rest) =>
              match skipBlanks rest with
              | ':' :: rest =>
                  match value? fuel rest with
                  | none => none
                  | some (item, rest) =>
                      let member : Quoted × Json := (⟨.ofList key⟩, item)
                      match skipBlanks rest with
                      | ',' :: rest =>
                          (members? fuel rest).map fun (members, rest) => (member :: members, rest)
                      | '}' :: rest => some ([member], rest)
                      | _ => none
              | _ => none
      | _ => none

end

/-- Read a whole document. Each step of a reader is paid for by a character of the input. -/
def parse? (text : String) : Option Json :=
  let input := text.toList
  match value? (2 * input.length + 2) input with
  | some (found, rest) => if (skipBlanks rest).isEmpty then some found else none
  | none => none

end CreatureNaming.Json
