import CreatureNaming.Number.Format
import CreatureNaming.Number.Numeral

/-! The work of a function as a dialogue.

A function gets its arguments unevaluated and asks for the ones it needs, one after the other.
What it asks next may depend on the texts it has got so far, and on nothing else of the arguments.
-/

set_option autoImplicit false

namespace CreatureNaming

/-- Why a function has no result. -/
inductive FunctionError where
  /-- A required argument is missing; positions count from one. -/
  | missingArgument (position : Nat)
  | notANumber (text : String)
  | divisionByZero
  | invalidExpression (text : String)
  | unknownCasing (mode : String)
  | format (error : Number.FormatError)
  | widthTooLarge (width : Int)
  deriving DecidableEq, Repr

/-- The widest result of padding. -/
def maxPadWidth : Nat := 1024

def FunctionError.message : FunctionError → String
  | .missingArgument position => "missing argument " ++ Number.integerText position
  | .notANumber text => s!"'{text}' is not a number"
  | .divisionByZero => "division by zero"
  | .invalidExpression text => s!"invalid expression '{text}'"
  | .unknownCasing mode => s!"unknown casing '{mode}'"
  | .format error => error.message
  | .widthTooLarge width =>
      "width " ++ Number.integerText width ++ " exceeds " ++ Number.integerText maxPadWidth

/-- A computation that may ask for the text of an argument; an argument that was not given has
none. -/
inductive Query (Result : Type) where
  | done (result : Result)
  | ask (position : Nat) (next : Option String → Query Result)

namespace Query

variable {First Second : Type}

def bind (first : Query First) (next : First → Query Second) : Query Second :=
  match first with
  | .done result => next result
  | .ask position answer => .ask position fun text => (answer text).bind next

instance : Monad Query where
  pure := .done
  bind := bind

end Query

/-- A function's work: a dialogue that ends with a text or an error. -/
abbrev Work (Result : Type) : Type := ExceptT FunctionError Query Result

namespace Work

/-- The text of an argument, if it was given. -/
def argument? (position : Nat) : Work (Option String) :=
  ExceptT.lift (Query.ask position .done)

/-- The text of an argument; one that was not given is empty. -/
def argument (position : Nat) : Work String := do
  return (← argument? position).getD ""

/-- The text of an argument that was given and does not consist of blanks. -/
def filled? (position : Nat) : Work (Option String) := do
  return (← argument? position).filter fun text => !Text.allBlank text

/-- The text of an argument that must be given and not consist of blanks. -/
def filled (position : Nat) : Work String := do
  match ← filled? position with
  | some text => return text
  | none => throw (.missingArgument (position + 1))

/-- The finite number that a text must be, blanks around it allowed. -/
def readNumber (text : String) : Except FunctionError Binary64 :=
  match Number.readFinite? text with
  | some value => .ok value
  | none => .error (.notANumber (Text.trim text))

/-- A result that is already known. -/
def ofExcept {Result : Type} (result : Except FunctionError Result) : Work Result :=
  match result with
  | .ok value => return value
  | .error error => throw error

def number (position : Nat) : Work Binary64 := do
  ofExcept (readNumber (← filled position))

/-- The integer part of an argument that must be a number. -/
def integer (position : Nat) : Work Int := do
  return (← number position).truncate

end Work

end CreatureNaming
