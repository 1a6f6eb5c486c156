import CreatureNaming.Function.Query

/-! Expressions of two numbers. -/

set_option autoImplicit false

namespace CreatureNaming

/-- The operators of arithmetic. -/
inductive Operator where
  | plus
  | minus
  | times
  | over
  deriving DecidableEq, Repr

def Operator.ofChar? : Char → Option Operator
  | '+' => some .plus
  | '-' => some .minus
  | '*' => some .times
  | '/' => some .over
  | _ => none

/-- Find the operator: the first one that follows the end of a number, blanks between them
allowed. A sign at the start, behind another operator or in an exponent belongs to a number.
`previous` is the last character before the text that is not blank. -/
def splitOperator (previous : Option Char) :
    List Char → Option (List Char × Operator × List Char)
  | [] => none
  | c :: rest =>
      let behindNumber := previous.any fun p => p.isDigit || p == '.'
      match (if behindNumber then Operator.ofChar? c else none) with
      | some operator => some ([], operator, rest)
      | none =>
          (splitOperator (if Text.isBlank c then previous else some c) rest).map
            fun (left, operator, right) => (c :: left, operator, right)

def Operator.apply (operator : Operator) (left right : Binary64) :
    Except FunctionError Binary64 :=
  match operator with
  | .plus => .ok (left.add right)
  | .minus => .ok (left.sub right)
  | .times => .ok (left.mul right)
  | .over => if right.isZero then .error .divisionByZero else .ok (left.div right)

/-- The value of an expression: a number, or two with an operator between them. -/
def evaluate (expression : String) : Except FunctionError Binary64 :=
  let expression := Text.trim expression
  match splitOperator none expression.toList with
  | none =>
      match Number.readFinite? expression with
      | some value => .ok value
      | none => .error (.invalidExpression expression)
  | some (left, operator, right) => do
      let left ← Work.readNumber (.ofList left)
      let right ← Work.readNumber (.ofList right)
      operator.apply left right

/-- The operators of comparison; one of two characters comes before its own beginning. -/
inductive Comparison where
  | equal
  | unequal
  | atMost
  | atLeast
  | less
  | greater
  deriving DecidableEq, Repr

/-- A comparison at the start of a text, with what follows it. -/
def Comparison.read? : List Char → Option (Comparison × List Char)
  | '=' :: '=' :: rest => some (.equal, rest)
  | '!' :: '=' :: rest => some (.unequal, rest)
  | '<' :: '=' :: rest => some (.atMost, rest)
  | '>' :: '=' :: rest => some (.atLeast, rest)
  | '<' :: rest => some (.less, rest)
  | '>' :: rest => some (.greater, rest)
  | _ => none

/-- Split at the first comparison. -/
def splitComparison (text : List Char) : Option (List Char × Comparison × List Char) :=
  match Comparison.read? text with
  | some (comparison, rest) => some ([], comparison, rest)
  | none =>
      match text with
      | [] => none
      | c :: rest =>
          (splitComparison rest).map fun (left, comparison, right) => (c :: left, comparison, right)

def Comparison.holds (comparison : Comparison) (left right : Binary64) : Bool :=
  match comparison with
  | .equal => left.equals right
  | .unequal => !left.equals right
  | .atMost => left.atMost right
  | .atLeast => right.atMost left
  | .less => left.less right
  | .greater => right.less left

/-- Whether a comparison of two numbers holds; a text that is none does not hold. -/
def comparisonHolds (expression : String) : Bool :=
  match splitComparison expression.toList with
  | none => false
  | some (left, comparison, right) =>
      match Number.readFinite? (.ofList left), Number.readFinite? (.ofList right) with
      | some left, some right => comparison.holds left right
      | _, _ => false

end CreatureNaming
