import CreatureNaming.Text.Blank
import CreatureNaming.Pattern.Lexeme

/-! Which call openings of a pattern have a closing.

An opening is paired with the two closing braces that end its call. One that has no partner, or
that stands inside too many others, is read as text: its first brace becomes an escaped brace
of the same text and span. A pattern that is still being typed therefore reads in one pass.
-/

set_option autoImplicit false

namespace CreatureNaming.Pattern

/-- The form of token and function names: a letter or underscore, then letters, digits and
underscores, all of ASCII. -/
def isIdentifier (name : String) : Bool :=
  match name.toList with
  | [] => false
  | first :: rest =>
      (first.isAlpha || first == '_') && rest.all fun c => c.isAlphanum || c == '_'

/-- Calls nested deeper than this are read as text. -/
def maxCallDepth : Nat := 64

/-- The parts of a call's opening: two open braces, a hash, a name and a colon. -/
structure Opening where
  name : String
  start : Nat
  nameSpan : Span

/-- Read a call's opening, with what follows it. -/
def opening? : List Lexeme → Option (Opening × List Lexeme)
  | ⟨.braceOpen, first⟩ :: ⟨.braceOpen, _⟩ :: ⟨.hash, _⟩ :: ⟨.text name, nameSpan⟩ ::
      ⟨.colon, _⟩ :: rest =>
      if isIdentifier (Text.trim name) then some (⟨Text.trim name, first.start, nameSpan⟩, rest)
      else none
  | _ => none

/-- Read a token reference, a name between single braces, with what follows it. -/
def reference? : List Lexeme → Option (String × Span × List Lexeme)
  | ⟨.braceOpen, first⟩ :: ⟨.text name, _⟩ :: ⟨.braceClose, last⟩ :: rest =>
      if isIdentifier name then some (name, first.through last, rest) else none
  | _ => none

/-- Read the two braces that close a call, with what follows them. -/
def closing? : List Lexeme → Option (Span × List Lexeme)
  | ⟨.braceClose, first⟩ :: ⟨.braceClose, last⟩ :: rest => some (first.through last, rest)
  | _ => none

theorem length_of_opening? {input rest : List Lexeme} {found : Opening}
    (h : opening? input = some (found, rest)) : rest.length + 5 = input.length := by
  unfold opening? at h
  split at h
  · split at h
    · simp only [Option.some.injEq, Prod.mk.injEq] at h
      simp [h.2]
    · simp at h
  · simp at h

theorem length_of_reference? {input rest : List Lexeme} {name : String} {span : Span}
    (h : reference? input = some (name, span, rest)) : rest.length + 3 = input.length := by
  unfold reference? at h
  split at h
  · split at h
    · simp only [Option.some.injEq, Prod.mk.injEq] at h
      simp [h.2]
    · simp at h
  · simp at h

theorem length_of_closing? {input rest : List Lexeme} {span : Span}
    (h : closing? input = some (span, rest)) : rest.length + 2 = input.length := by
  unfold closing? at h
  split at h
  · simp only [Option.some.injEq, Prod.mk.injEq] at h
    simp [h.2]
  · simp at h

/-- The lexeme, were it preceded by a backslash. -/
def Lexeme.asText (lexeme : Lexeme) : Lexeme := { lexeme with kind := .escaped '{' }

/-- Turn the first brace of an opening into text. -/
def escapeFirst : List Lexeme → List Lexeme
  | [] => []
  | first :: rest => first.asText :: rest

/-- Pair openings with closings, `pending` openings being still open at the start. The result
is the lexemes with every unpaired opening turned into text, and how many of the pending
openings, counted from the innermost, are closed. -/
def pairFrom (pending : Nat) (input : List Lexeme) : List Lexeme × Nat :=
  match _opening : opening? input with
  | some (_, rest) =>
      if pending < maxCallDepth then
        match pairFrom (pending + 1) rest with
        | (paired, 0) => (escapeFirst (input.take 5) ++ paired, 0)
        | (paired, closed + 1) => (input.take 5 ++ paired, closed)
      else
        let (paired, closed) := pairFrom pending rest
        (escapeFirst (input.take 5) ++ paired, closed)
  | none =>
      match _reference : reference? input with
      | some (_, _, rest) =>
          let (paired, closed) := pairFrom pending rest
          (input.take 3 ++ paired, closed)
      | none =>
          match _closing : closing? input, pending with
          | some (_, rest), outer + 1 =>
              let (paired, closed) := pairFrom outer rest
              (input.take 2 ++ paired, closed + 1)
          | _, _ =>
              match input with
              | [] => ([], 0)
              | first :: rest =>
                  let (paired, closed) := pairFrom pending rest
                  (first :: paired, closed)
termination_by input.length
decreasing_by
  · have := length_of_opening? _opening; omega
  · have := length_of_opening? _opening; omega
  · have := length_of_reference? _reference; omega
  · have := length_of_closing? _closing; omega
  · simp

/-- The lexemes with every opening that never closes, or stands too deep, turned into text. -/
def pairCalls (input : List Lexeme) : List Lexeme := (pairFrom 0 input).1

end CreatureNaming.Pattern
