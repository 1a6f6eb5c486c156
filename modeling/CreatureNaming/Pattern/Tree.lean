import CreatureNaming.Text.Blank
import CreatureNaming.Pattern.Span

/-! Trees of naming patterns.

A pattern, and each argument of a call in it, is a list of nodes. No literal stands beside
another one: `mergeLiterals` joins them, and `argument` cuts the blanks off both ends.
-/

set_option autoImplicit false

namespace CreatureNaming.Pattern

inductive Node where
  /-- Text that goes to the name unchanged. -/
  | literal (span : Span) (text : String)
  /-- The value of a token. -/
  | token (span : Span) (name : String)
  /-- A function's result; `nameSpan` is the room between the hash and the colon. -/
  | call (span : Span) (nameSpan : Span) (name : String) (arguments : List (List Node))

/-- Where a node stands in the source. -/
def Node.span : Node → Span
  | .literal span _ => span
  | .token span _ => span
  | .call span _ _ _ => span

def Node.isLiteral : Node → Bool
  | .literal _ _ => true
  | _ => false

/-- Join runs of adjacent literals into one literal each. -/
def mergeLiterals : List Node → List Node
  | .literal span text :: .literal nextSpan nextText :: rest =>
      mergeLiterals (.literal (span.through nextSpan) (text ++ nextText) :: rest)
  | node :: rest => node :: mergeLiterals rest
  | [] => []
termination_by nodes => nodes.length

def Node.mapLiteral (f : String → String) : Node → Node
  | .literal span text => .literal span (f text)
  | node => node

def mapFirst (f : Node → Node) : List Node → List Node
  | [] => []
  | first :: rest => f first :: rest

def mapLast (f : Node → Node) : List Node → List Node
  | [] => []
  | [last] => [f last]
  | node :: rest => node :: mapLast f rest

def Node.isEmptyLiteral : Node → Bool
  | .literal _ text => text.isEmpty
  | _ => false

/-- The nodes of an argument: literals merged, blanks cut off at both edges, and what is then
empty dropped. -/
def argument (nodes : List Node) : List Node :=
  let merged := mergeLiterals nodes
  let trimmed := mapLast (Node.mapLiteral Text.trimEnd)
    (mapFirst (Node.mapLiteral Text.trimStart) merged)
  trimmed.filter fun node => !node.isEmptyLiteral

/-- The nodes of a text that is taken as it stands. -/
def ofText (text : String) : List Node :=
  if text.isEmpty then [] else [.literal ⟨0, text.utf8ByteSize⟩ text]

/-- Only literals. -/
def isPlain (nodes : List Node) : Bool := nodes.all Node.isLiteral

/-- The text of nodes that hold neither a token nor a call. -/
def plainText? : List Node → Option String
  | [] => some ""
  | [.literal _ text] => some text
  | _ => none

mutual

/-- Whether a token of this folded name stands anywhere in a node. -/
def Node.mentions (folded : String) : Node → Bool
  | .literal _ _ => false
  | .token _ name => Text.foldCase name == folded
  | .call _ _ _ arguments => anyMentions folded arguments

def anyMentions (folded : String) : List (List Node) → Bool
  | [] => false
  | nodes :: rest => mentionsIn folded nodes || anyMentions folded rest

def mentionsIn (folded : String) : List Node → Bool
  | [] => false
  | node :: rest => node.mentions folded || mentionsIn folded rest

end

/-- Whether a token of this name, in any ASCII case, stands anywhere in a pattern. -/
def mentions (name : String) (nodes : List Node) : Bool := mentionsIn (Text.foldCase name) nodes

mutual

/-- A node and all nodes of its arguments, parents first. -/
def Node.flatten : Node → List Node
  | .call span nameSpan name arguments =>
      .call span nameSpan name arguments :: flattenArguments arguments
  | node => [node]

def flattenArguments : List (List Node) → List Node
  | [] => []
  | nodes :: rest => flatten nodes ++ flattenArguments rest

/-- All nodes, depth first, parents before their arguments. -/
def flatten : List Node → List Node
  | [] => []
  | node :: rest => node.flatten ++ flatten rest

end

end CreatureNaming.Pattern
