import CreatureNaming.Json.Basic
import CreatureNaming.Text.Ascii

/-! The text that a JSON string stands for, and the string that stands for a text. -/

set_option autoImplicit false

namespace CreatureNaming.Json

/-- The value of four hexadecimal digits. -/
def hexUnit? (a b c d : Char) : Option Nat := do
  let a ← Text.hexValue? a
  let b ← Text.hexValue? b
  let c ← Text.hexValue? c
  let d ← Text.hexValue? d
  return ((a * 16 + b) * 16 + c) * 16 + d

/-- The character of an escape of one letter. -/
def shortEscape? : Char → Option Char
  | '"' => some '"'
  | '\\' => some '\\'
  | '/' => some '/'
  | 'b' => some '\x08'
  | 'f' => some '\x0c'
  | 'n' => some '\n'
  | 'r' => some '\r'
  | 't' => some '\t'
  | _ => none

/-- Undo the escapes. A unit of four digits that is half of a surrogate pair must be followed by
the other half. -/
def unescape : List Char → Option (List Char)
  | '\\' :: 'u' :: a :: b :: c :: d :: rest =>
      match hexUnit? a b c d with
      | none => none
      | some unit =>
          if 0xD800 ≤ unit && unit ≤ 0xDBFF then
            match rest with
            | '\\' :: 'u' :: a :: b :: c :: d :: rest =>
                match hexUnit? a b c d with
                | none => none
                | some low =>
                    if 0xDC00 ≤ low && low ≤ 0xDFFF then
                      (unescape rest).map
                        (.ofNat (0x10000 + (unit - 0xD800) * 0x400 + (low - 0xDC00)) :: ·)
                    else none
            | _ => none
          else if 0xDC00 ≤ unit && unit ≤ 0xDFFF then none
          else (unescape rest).map (.ofNat unit :: ·)
  | '\\' :: c :: rest =>
      match shortEscape? c with
      | none => none
      | some char => (unescape rest).map (char :: ·)
  | '\\' :: [] => none
  | c :: rest => (unescape rest).map (c :: ·)
  | [] => some []

/-- The text of a string; none when an escape names half of a surrogate pair. -/
def Quoted.text? (quoted : Quoted) : Option String :=
  (unescape quoted.written.toList).map String.ofList

def hexDigit (n : Nat) : Char := if n < 10 then .ofNat (n + '0'.toNat) else .ofNat (n - 10 + 'a'.toNat)

/-- A character as it is written in a string: quotes, backslashes and control characters are
escaped, all others stand for themselves. -/
def escapeChar : Char → List Char
  | '"' => ['\\', '"']
  | '\\' => ['\\', '\\']
  | '\x08' => ['\\', 'b']
  | '\x0c' => ['\\', 'f']
  | '\n' => ['\\', 'n']
  | '\r' => ['\\', 'r']
  | '\t' => ['\\', 't']
  | c =>
      if c.toNat < 0x20 then
        ['\\', 'u', '0', '0', hexDigit (c.toNat / 16), hexDigit (c.toNat % 16)]
      else [c]

def Quoted.ofText (text : String) : Quoted := ⟨.ofList (text.toList.flatMap escapeChar)⟩

end CreatureNaming.Json

namespace CreatureNaming

def Json.ofText (text : String) : Json := .string (.ofText text)

end CreatureNaming
