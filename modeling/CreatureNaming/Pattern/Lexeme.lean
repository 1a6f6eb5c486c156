import CreatureNaming.Pattern.Span

/-! Lexemes of a naming pattern.

Every character of a pattern belongs to exactly one lexeme. The characters that can build a
construct stand alone, a backslash takes such a character into one lexeme, and all other
characters form maximal runs of text.
-/

set_option autoImplicit false

namespace CreatureNaming.Pattern

/-- What a lexeme is made of. -/
inductive Lexeme.Kind where
  | braceOpen
  | braceClose
  | pipe
  | colon
  | hash
  /-- A structural character behind a backslash, read as text. -/
  | escaped (char : Char)
  /-- A backslash before any other character. -/
  | backslash
  | text (chars : String)
  deriving DecidableEq, Repr

structure Lexeme where
  kind : Lexeme.Kind
  span : Span
  deriving DecidableEq, Repr

/-- The characters that can build a construct, and so can be escaped. -/
def isStructural (c : Char) : Bool :=
  c == '{' || c == '}' || c == '|' || c == ':' || c == '#' || c == '\\'

/-- What a lexeme contributes when it is read as text. -/
def Lexeme.literal (lexeme : Lexeme) : String :=
  match lexeme.kind with
  | .braceOpen => "\x7b"
  | .braceClose => "\x7d"
  | .pipe => "|"
  | .colon => ":"
  | .hash => "#"
  | .escaped c => c.toString
  | .backslash => "\\"
  | .text chars => chars

/-- The lexeme of a structural character other than the backslash. -/
def Lexeme.Kind.ofStructural? : Char → Option Lexeme.Kind
  | '{' => some .braceOpen
  | '}' => some .braceClose
  | '|' => some .pipe
  | ':' => some .colon
  | '#' => some .hash
  | _ => none

theorem length_dropWhile_lt {first : Char} {rest : List Char} {keep : Char → Bool}
    (h : keep first = true) : ((first :: rest).dropWhile keep).length < (first :: rest).length := by
  have := (List.dropWhile_sublist (l := rest) keep).length_le
  simp [h]
  omega

/-- Split characters into lexemes; `start` is the byte offset of the first one. -/
def lexemesFrom (start : Nat) : List Char → List Lexeme
  | [] => []
  | first :: rest =>
      if _plain : isStructural first = false then
        let run := (first :: rest).takeWhile fun c => !isStructural c
        let stop := start + Text.byteLength run
        ⟨.text (.ofList run), ⟨start, stop⟩⟩ ::
          lexemesFrom stop ((first :: rest).dropWhile fun c => !isStructural c)
      else
        match Lexeme.Kind.ofStructural? first with
        | some kind => ⟨kind, ⟨start, start + 1⟩⟩ :: lexemesFrom (start + 1) rest
        | none =>
            match rest with
            | second :: rest =>
                if isStructural second then
                  ⟨.escaped second, ⟨start, start + 2⟩⟩ :: lexemesFrom (start + 2) rest
                else ⟨.backslash, ⟨start, start + 1⟩⟩ :: lexemesFrom (start + 1) (second :: rest)
            | [] => [⟨.backslash, ⟨start, start + 1⟩⟩]
termination_by text => text.length
decreasing_by
  · exact length_dropWhile_lt (by simp [_plain])
  · simp
  · simp_all +arith
  · simp_all +arith

/-- The lexemes of a pattern's source text. -/
def lexemes (source : String) : List Lexeme := lexemesFrom 0 source.toList

end CreatureNaming.Pattern
