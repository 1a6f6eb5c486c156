import CreatureNaming.Function.Basic
import CreatureNaming.Pattern.Grammar
import CreatureNaming.Report
import CreatureNaming.Token.Key

/-! Findings about patterns.

Rendering never fails, so a mistyped name goes unnoticed: it renders as nothing. A finding points
at a name that is not known, or at a call that is never closed and so is literal text.
-/

set_option autoImplicit false

namespace CreatureNaming

inductive Finding where
  | unknownToken (span : Span) (name : String)
  | unknownFunction (span : Span) (name : String)
  | unterminatedCall (span : Span)
  deriving DecidableEq, Repr

namespace Finding

def span : Finding → Span
  | unknownToken span _ => span
  | unknownFunction span _ => span
  | unterminatedCall span => span

def kind : Finding → String
  | unknownToken _ _ => "unknown-token"
  | unknownFunction _ _ => "unknown-function"
  | unterminatedCall _ => "unterminated-call"

def message : Finding → String
  | unknownToken _ name => s!"unknown token '{name}'"
  | unknownFunction _ name => s!"unknown function '{name}'"
  | unterminatedCall _ => "function call is never closed with '\x7d\x7d'"

/-- What the place renders as. -/
def effect : Finding → String
  | unknownToken _ _ => "renders as empty text"
  | unknownFunction _ _ => "renders as empty text"
  | unterminatedCall _ => "rendered as literal text"

/-- A finding on one line. -/
def text (finding : Finding) : String :=
  finding.kind ++ " at " ++ Number.integerText finding.span.start ++ ".." ++
    Number.integerText finding.span.stop ++ ": " ++ finding.message

/-- The report of a finding. Its offsets count bytes, and are taken as they are. -/
def report (sourceName source : String) (finding : Finding) : Report where
  sourceName
  source := source.toList
  place := finding.span
  message := finding.message
  note := finding.effect

end Finding

namespace Pattern

/-- The byte offsets of the openings of calls in a text that starts at `offset`. An opening behind
an odd number of backslashes is escaped; `escaped` tells whether the characters read so far end
in such a number. -/
def openingsFrom (offset : Nat) (escaped : Bool) : List Char → List Nat
  | '{' :: '{' :: '#' :: rest =>
      let rest := openingsFrom (offset + 3) false rest
      if escaped then rest else offset :: rest
  | c :: rest =>
      openingsFrom (offset + c.utf8Size) (if c = '\\' then !escaped else false) rest
  | [] => []

/-- The findings about a node alone. -/
def findingsAt (source : List Char) : Node → List Finding
  | .token span name =>
      match Token.ofName? name with
      | some _ => []
      | none => [.unknownToken span name]
  | .call _ nameSpan name _ =>
      match Function.ofName? name with
      | some _ => []
      | none => [.unknownFunction nameSpan name]
  | .literal span _ =>
      match span.slice source with
      | none => []
      | some text =>
          (openingsFrom span.start false text).map fun start =>
            .unterminatedCall ⟨start, span.stop⟩

/-- All findings about a pattern, in the order of their places. -/
def findings (source : String) : List Finding :=
  let found := (flatten (parse source)).flatMap (findingsAt source.toList)
  found.mergeSort fun first second => first.span.start ≤ second.span.start

end Pattern

end CreatureNaming
