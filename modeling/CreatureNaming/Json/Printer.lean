import CreatureNaming.Json.Quoted
import CreatureNaming.Number.Decimal

/-! Writing JSON documents, on one line or with two blanks for each level of nesting. -/

set_option autoImplicit false

namespace CreatureNaming

namespace Json

open Number

/-- The digits of a natural number. -/
def Numeral.ofNat (value : Nat) : Numeral := ⟨false, decimalDigits value, none, none⟩

def Numeral.ofInt (value : Int) : Numeral :=
  ⟨value < 0, decimalDigits value.natAbs, none, none⟩

/-- The fewest digits that read back. The point stays for integers up to `10^16`; smaller and
larger numbers have an exponent. -/
def Numeral.ofMagnitude (negative : Bool) (magnitude : Binary64.Magnitude) : Numeral :=
  let decimal := shortest .even magnitude
  let scientific := decimal.scientific
  if magnitude.mantissa = 0 then ⟨negative, ['0'], some ['0'], none⟩
  else if -5 ≤ scientific.exponent && scientific.exponent < 16 then
    let text := decimal.positionalText
    let fraction := (text.dropWhile (· != '.')).drop 1
    ⟨negative, text.takeWhile (· != '.'), some (if fraction.isEmpty then ['0'] else fraction), none⟩
  else
    ⟨negative, scientific.digits.take 1,
      if scientific.digits.length = 1 then none else some (scientific.digits.drop 1),
      some (scientific.exponent < 0, decimalDigits scientific.exponent.natAbs)⟩

def Numeral.chars (numeral : Numeral) : List Char :=
  (if numeral.negative then ['-'] else []) ++ numeral.whole ++
    (match numeral.fraction with
      | some digits => '.' :: digits
      | none => []) ++
    (match numeral.exponent with
      | some (negative, digits) => 'e' :: (if negative then '-' else '+') :: digits
      | none => [])

def Numeral.text (numeral : Numeral) : String := .ofList numeral.chars

def Quoted.print (quoted : Quoted) : String := "\"" ++ quoted.written ++ "\""

end Json

def Json.ofNat (value : Nat) : Json := .number (.ofNat value)

def Json.ofInt (value : Int) : Json := .number (.ofInt value)

/-- A finite number; what is not finite has no numeral and is written as null. -/
def Json.ofBinary64 : Binary64 → Json
  | .finite negative magnitude => .number (.ofMagnitude negative magnitude)
  | _ => .null

def Json.ofOption {α : Type} (encode : α → Json) : Option α → Json
  | some value => encode value
  | none => .null

/-- An object with the given members. -/
def Json.record (members : List (String × Json)) : Json :=
  .object (members.map fun (name, value) => (.ofText name, value))

namespace Json

mutual

/-- Append a document on one line. -/
def compactOnto (out : String) : Json → String
  | .null => out ++ "null"
  | .bool value => out ++ if value then "true" else "false"
  | .number numeral => out ++ numeral.text
  | .string quoted => out ++ quoted.print
  | .array items => itemsOnto (out ++ "[") "" items ++ "]"
  | .object members => membersOnto (out ++ "\x7b") "" members ++ "\x7d"

def itemsOnto (out separator : String) : List Json → String
  | [] => out
  | item :: rest => itemsOnto (compactOnto (out ++ separator) item) "," rest

def membersOnto (out separator : String) : List (Quoted × Json) → String
  | [] => out
  | (key, value) :: rest =>
      membersOnto (compactOnto (out ++ separator ++ key.print ++ ":") value) "," rest

end

def compact (document : Json) : String := compactOnto "" document

def indent (depth : Nat) : String := "\n" ++ "".pushn ' ' (2 * depth)

mutual

/-- Append a document with each item and member on a line of its own. -/
def prettyOnto (depth : Nat) (out : String) : Json → String
  | .array [] => out ++ "[]"
  | .object [] => out ++ "\x7b\x7d"
  | .array items =>
      prettyItemsOnto (depth + 1) (out ++ "[") "" items ++ indent depth ++ "]"
  | .object members =>
      prettyMembersOnto (depth + 1) (out ++ "\x7b") "" members ++ indent depth ++ "\x7d"
  | .null => out ++ "null"
  | .bool value => out ++ if value then "true" else "false"
  | .number numeral => out ++ numeral.text
  | .string quoted => out ++ quoted.print

def prettyItemsOnto (depth : Nat) (out separator : String) : List Json → String
  | [] => out
  | item :: rest =>
      prettyItemsOnto depth (prettyOnto depth (out ++ separator ++ indent depth) item) "," rest

def prettyMembersOnto (depth : Nat) (out separator : String) : List (Quoted × Json) → String
  | [] => out
  | (key, value) :: rest =>
      prettyMembersOnto depth
        (prettyOnto depth (out ++ separator ++ indent depth ++ key.print ++ ": ") value) "," rest

end

def pretty (document : Json) : String := prettyOnto 0 "" document

end Json

end CreatureNaming
