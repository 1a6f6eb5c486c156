/-! Finding and replacing parts of texts. -/

set_option autoImplicit false

namespace CreatureNaming.Text

/-- The first position, in characters, at which a part stands. -/
def find? (part : List Char) : List Char → Option Nat
  | [] => if part.isEmpty then some 0 else none
  | first :: rest =>
      if part.isPrefixOf (first :: rest) then some 0 else (find? part rest).map (· + 1)

/-- Replace all places at which a part stands, from left to right and without overlap. -/
def replaceAll (part replacement text : List Char) : List Char :=
  match text with
  | [] => []
  | first :: rest =>
      if part.isPrefixOf (first :: rest) && !part.isEmpty then
        replacement ++ replaceAll part replacement (rest.drop (part.length - 1))
      else first :: replaceAll part replacement rest
termination_by text.length

/-- The characters from `start` on, `length` of them or all that remain. A negative start counts
from the end; both are cut off at the ends of the text. -/
def slice (text : List Char) (start : Int) (length : Option Int) : List Char :=
  let total : Int := text.length
  let start := if start < 0 then max (total + start) 0 else min start total
  let available := total - start
  let length := length.elim available fun length => max 0 (min length available)
  (text.drop start.toNat).take length.toNat

end CreatureNaming.Text
