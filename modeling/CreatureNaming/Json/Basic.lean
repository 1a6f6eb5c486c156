/-! JSON documents as they are written.

A number keeps its digits and a string what stands between its quotes, because what they mean
depends on who asks: a number that does not fit, or an escape that names half of a surrogate
pair, matters only where the value is used.
-/

set_option autoImplicit false

namespace CreatureNaming

namespace Json

/-- A number's digits: the whole part, what follows a point, and the exponent with its sign. -/
structure Numeral where
  negative : Bool
  whole : List Char
  fraction : Option (List Char)
  exponent : Option (Bool × List Char)
  deriving DecidableEq, Repr

/-- What stands between the quotes of a string. -/
structure Quoted where
  written : String
  deriving DecidableEq, Repr

end Json

inductive Json where
  | null
  | bool (value : Bool)
  | number (numeral : Json.Numeral)
  | string (quoted : Json.Quoted)
  | array (items : List Json)
  | object (members : List (Json.Quoted × Json))

instance : Inhabited Json := ⟨.null⟩

end CreatureNaming
