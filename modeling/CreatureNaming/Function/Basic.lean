import CreatureNaming.Text.Ascii

/-! The functions that a pattern can call. -/

set_option autoImplicit false

namespace CreatureNaming

inductive Function where
  | ifText
  | ifExpression
  | expression
  | length
  | substring
  | replace
  | customReplace
  | quotient
  | integerQuotient
  | padLeft
  | padRight
  | casing
  | time
  | format
  | formatInteger
  | indexOf
  | color
  deriving DecidableEq, Repr

namespace Function

def all : List Function :=
  [ifText, ifExpression, expression, length, substring, replace, customReplace, quotient,
    integerQuotient, padLeft, padRight, casing, time, format, formatInteger, indexOf, color]

/-- The name by which a pattern calls a function. -/
def name : Function → String
  | ifText => "if"
  | ifExpression => "ifexpr"
  | expression => "expr"
  | length => "len"
  | substring => "substring"
  | replace => "replace"
  | customReplace => "customreplace"
  | quotient => "float_div"
  | integerQuotient => "div"
  | padLeft => "padleft"
  | padRight => "padright"
  | casing => "casing"
  | time => "time"
  | format => "format"
  | formatInteger => "format_int"
  | indexOf => "indexof"
  | color => "color"

/-- What stands behind the name in a call: the arguments, by what they mean. -/
def parameters : Function → String
  | ifText => "text | if not empty | if empty"
  | ifExpression => "a op b | if true | if false"
  | expression => "a op b"
  | length => "text"
  | substring => "text | start | length"
  | replace => "text | find | replace by"
  | customReplace => "key | default"
  | quotient => "number | divisor | format"
  | integerQuotient => "number | divisor"
  | padLeft => "text | length | padding character"
  | padRight => "text | length | padding character"
  | casing => "text | U, L or T"
  | time => "format"
  | format => "number | format"
  | formatInteger => "number | format"
  | indexOf => "text | find"
  | color => "region | return name | include unused regions"

/-- A call as it is written in a pattern. -/
def usage (function : Function) : String :=
  "\x7b\x7b#" ++ function.name ++ ": " ++ function.parameters ++ " \x7d\x7d"

/-- The function of a name, in any ASCII case. -/
def ofName? (name : String) : Option Function :=
  all.find? fun function => Text.equalFolded function.name name

end Function

end CreatureNaming
