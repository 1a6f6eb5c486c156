/-! Blank characters, and trimming at the edges of a text.

The class is the Unicode property White_Space. -/

set_option autoImplicit false

namespace CreatureNaming.Text

/-- The 25 characters with the property White_Space. -/
def isBlank (c : Char) : Bool :=
  let n := c.toNat
  (9 ≤ n && n ≤ 13) || n == 0x20 || n == 0x85 || n == 0xA0 || n == 0x1680 ||
    (0x2000 ≤ n && n ≤ 0x200A) || n == 0x2028 || n == 0x2029 || n == 0x202F ||
    n == 0x205F || n == 0x3000

def trimStartChars (text : List Char) : List Char := text.dropWhile isBlank

def trimEndChars (text : List Char) : List Char := (text.reverse.dropWhile isBlank).reverse

def trimChars (text : List Char) : List Char := trimEndChars (trimStartChars text)

def trimStart (text : String) : String := .ofList (trimStartChars text.toList)

def trimEnd (text : String) : String := .ofList (trimEndChars text.toList)

def trim (text : String) : String := .ofList (trimChars text.toList)

/-- No character but blanks. -/
def allBlank (text : String) : Bool := text.toList.all isBlank

/-- The first maximal run of characters that are not blank. -/
def firstWord (text : String) : String :=
  .ofList ((trimStartChars text.toList).takeWhile fun c => !isBlank c)

end CreatureNaming.Text
