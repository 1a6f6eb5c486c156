import CreatureNaming.Pattern.Nesting
import CreatureNaming.Pattern.Tree

/-! The grammar of naming patterns.

Every list of lexemes has a tree. At each place a call is tried first, then a token reference,
and what is neither stands for its own text. Inside a call, a pipe separates arguments and two
closing braces end it; a call that reaches the end of the input without them is no call.
`parse` pairs openings and closings beforehand, so that it never tries a call in vain.
-/

set_option autoImplicit false

namespace CreatureNaming.Pattern

/-- What remains of an input after something has been read from it. -/
abbrev Rest (input : List Lexeme) : Type := { rest : List Lexeme // rest.length < input.length }

mutual

/-- Read a call at the start of the input. -/
def call? (input : List Lexeme) : Option (Node × Rest input) :=
  match _opening : opening? input with
  | none => none
  | some (opening, body) =>
      match argumentsFrom [] body with
      | none => none
      | some (arguments, stop, ⟨rest, shorter⟩) =>
          some (.call ⟨opening.start, stop⟩ opening.nameSpan opening.name arguments,
            ⟨rest, by have := length_of_opening? _opening; omega⟩)
termination_by (input.length, 0)
decreasing_by have := length_of_opening? _opening; simp [Prod.lex_def]; omega

/-- Read the arguments of a call up to and including its closing; `done` holds the nodes of the
present argument read so far, last one first. The number is the end of the closing. -/
def argumentsFrom (done : List Node) (input : List Lexeme) :
    Option (List (List Node) × Nat × Rest input) :=
  match closed : closing? input with
  | some (span, rest) =>
      some ([argument done.reverse], span.stop,
        ⟨rest, by have := length_of_closing? closed; omega⟩)
  | none =>
      match input with
      | [] => none
      | first :: rest =>
          if first.kind = .pipe then
            match argumentsFrom [] rest with
            | none => none
            | some (arguments, stop, ⟨rest, shorter⟩) =>
                some (argument done.reverse :: arguments, stop,
                  ⟨rest, Nat.lt_succ_of_lt shorter⟩)
          else
            match call? (first :: rest) with
            | some (node, ⟨rest, shorter⟩) =>
                match argumentsFrom (node :: done) rest with
                | none => none
                | some (arguments, stop, ⟨rest, shorterStill⟩) =>
                    some (arguments, stop, ⟨rest, Nat.lt_trans shorterStill shorter⟩)
            | none =>
                match referred : reference? (first :: rest) with
                | some (name, span, rest) =>
                    match argumentsFrom (.token span name :: done) rest with
                    | none => none
                    | some (arguments, stop, ⟨rest, shorter⟩) =>
                        some (arguments, stop,
                          ⟨rest, by have := length_of_reference? referred; omega⟩)
                | none =>
                    match argumentsFrom (.literal first.span first.literal :: done) rest with
                    | none => none
                    | some (arguments, stop, ⟨rest, shorter⟩) =>
                        some (arguments, stop, ⟨rest, Nat.lt_succ_of_lt shorter⟩)
termination_by (input.length, 1)
decreasing_by
  · simp [Prod.lex_def]
  · simp [Prod.lex_def]
  · simp [Prod.lex_def]; simp at shorter; omega
  · have := length_of_reference? referred; simp [Prod.lex_def]; simp at this; omega
  · simp [Prod.lex_def]

end

/-- Read a whole input into nodes, one literal for each lexeme that is part of no construct. -/
def nodesFrom (input : List Lexeme) : List Node :=
  match call? input with
  | some (node, ⟨rest, _shorter⟩) => node :: nodesFrom rest
  | none =>
      match _referred : reference? input with
      | some (name, span, rest) => .token span name :: nodesFrom rest
      | none =>
          match input with
          | [] => []
          | first :: rest => .literal first.span first.literal :: nodesFrom rest
termination_by input.length
decreasing_by
  · exact _shorter
  · have := length_of_reference? _referred; omega
  · simp

/-- The tree of a list of lexemes. -/
def grammar (input : List Lexeme) : List Node := mergeLiterals (nodesFrom input)

/-- The tree of a pattern's source text. -/
def parse (source : String) : List Node := grammar (pairCalls (lexemes source))

end CreatureNaming.Pattern
