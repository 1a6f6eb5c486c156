import CreatureNaming.Text.Ascii

/-! Strings in TOML.

A string stands between quotes on one line, or between three quotes on several lines. Double
quotes take escapes; between single quotes every character stands for itself.
-/

set_option autoImplicit false

namespace CreatureNaming.Toml

/-- Blanks within a line. -/
def isBlank (c : Char) : Bool := c == ' ' || c == '\t'

/-- The characters that stand for themselves in comments and strings: all but control characters
other than the tab. -/
def isPrintable (c : Char) : Bool := c == '\t' || (0x20 ≤ c.toNat && c.toNat != 0x7f)

/-- The quote that a string stands between, and whether it may go over several lines. -/
structure Delimiter where
  quote : Char
  multiline : Bool
  deriving DecidableEq, Repr

namespace Delimiter

def hasEscapes (delimiter : Delimiter) : Bool := delimiter.quote == '"'

def allows (delimiter : Delimiter) (c : Char) : Bool :=
  isPrintable c || (delimiter.multiline && c == '\n')

/-- Read the quotes that open a string. A line break right behind three quotes is passed over. -/
def open? : List Char → Option (Delimiter × List Char)
  | '"' :: '"' :: '"' :: '\n' :: rest | '"' :: '"' :: '"' :: rest => some (⟨'"', true⟩, rest)
  | '\'' :: '\'' :: '\'' :: '\n' :: rest | '\'' :: '\'' :: '\'' :: rest =>
      some (⟨'\'', true⟩, rest)
  | '"' :: rest => some (⟨'"', false⟩, rest)
  | '\'' :: rest => some (⟨'\'', false⟩, rest)
  | _ => none

/-- Read the quotes that close a string. Of more than three quotes, up to two belong to the
string. -/
def close? (delimiter : Delimiter) (input : List Char) : Option (List Char × List Char) :=
  let quotes := (input.takeWhile fun c => c == delimiter.quote).length
  if delimiter.multiline then
    if 3 ≤ quotes then
      let kept := min quotes 5 - 3
      some (List.replicate kept delimiter.quote, input.drop (kept + 3))
    else none
  else if 1 ≤ quotes then some ([], input.drop 1)
  else none

/-- What is written up to the closing quotes. `escaped` tells that a backslash stands before the
first character, which takes away its meaning. -/
def written? (delimiter : Delimiter) (escaped : Bool) :
    List Char → Option (List Char × List Char)
  | [] => none
  | c :: rest =>
      match (if escaped then none else delimiter.close? (c :: rest)) with
      | some found => some found
      | none =>
          if delimiter.allows c then
            let escapes := delimiter.hasEscapes && !escaped && c == '\\'
            (delimiter.written? escapes rest).map fun (found, rest) => (c :: found, rest)
          else none

end Delimiter

/-- The character with a number in hexadecimal digits. -/
def codePoint? (digits : List Char) : Option Char := do
  let number ← digits.foldlM (fun n digit => do return n * 16 + (← Text.hexValue? digit)) 0
  if number.isValidChar then some (.ofNat number) else none

/-- The character of an escape of one letter. -/
def shortEscape? : Char → Option Char
  | 'b' => some '\x08'
  | 't' => some '\t'
  | 'n' => some '\n'
  | 'f' => some '\x0c'
  | 'r' => some '\r'
  | '"' => some '"'
  | '\\' => some '\\'
  | _ => none

/-- Undo the escapes. A backslash at the end of a line takes away the blanks and line breaks up to
the next character. -/
def unescape? : List Char → Option (List Char)
  | [] => some []
  | '\\' :: 'u' :: a :: b :: c :: d :: rest => do
      return (← codePoint? [a, b, c, d]) :: (← unescape? rest)
  | '\\' :: 'U' :: a :: b :: c :: d :: e :: f :: g :: h :: rest => do
      return (← codePoint? [a, b, c, d, e, f, g, h]) :: (← unescape? rest)
  | '\\' :: c :: rest =>
      if (c :: rest).dropWhile isBlank |>.head? |>.any (· == '\n') then
        unescape? ((c :: rest).dropWhile fun c => isBlank c || c == '\n')
      else do return (← shortEscape? c) :: (← unescape? rest)
  | ['\\'] => none
  | c :: rest => (unescape? rest).map (c :: ·)
termination_by text => text.length
decreasing_by
  · simp +arith
  · simp +arith
  · have := (List.dropWhile_sublist (l := c :: rest) fun c => isBlank c || c == '\n').length_le
    exact Nat.lt_succ_of_le this
  · simp +arith
  · simp

/-- Read a string behind the quotes that open it. -/
def quoted? (delimiter : Delimiter) (input : List Char) : Option (String × List Char) := do
  let (written, rest) ← delimiter.written? false input
  let text ← if delimiter.hasEscapes then unescape? written else some written
  return (.ofList text, rest)

end CreatureNaming.Toml
