/-! ASCII letters and digits, and the length of texts in bytes. -/

set_option autoImplicit false

namespace CreatureNaming.Text

/-- Lower the letters A to Z; every other character stays. -/
def foldCase (text : String) : String := .ofList (text.toList.map Char.toLower)

def equalFolded (first second : String) : Bool := foldCase first == foldCase second

/-- The length of a text in bytes of UTF-8. -/
def byteLength (text : List Char) : Nat := text.foldr (fun c rest => c.utf8Size + rest) 0

/-- The value of a decimal digit. -/
def digitValue? (c : Char) : Option Nat :=
  if c.isDigit then some (c.toNat - '0'.toNat) else none

/-- The value of a hexadecimal digit. -/
def hexValue? (c : Char) : Option Nat :=
  if c.isDigit then some (c.toNat - '0'.toNat)
  else if 'a' ≤ c && c ≤ 'f' then some (c.toNat - 'a'.toNat + 10)
  else if 'A' ≤ c && c ≤ 'F' then some (c.toNat - 'A'.toNat + 10)
  else none

end CreatureNaming.Text
