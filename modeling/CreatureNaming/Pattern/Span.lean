import CreatureNaming.Text.Ascii

/-! Byte ranges of a pattern's source text. -/

set_option autoImplicit false

namespace CreatureNaming

/-- The bytes from `start` up to, but without, `stop`. -/
structure Span where
  start : Nat
  stop : Nat
  deriving DecidableEq, Repr

namespace Span

/-- The smallest range that holds both of two consecutive ranges. -/
def through (first second : Span) : Span := ⟨first.start, second.stop⟩

def shift (offset : Nat) (span : Span) : Span := ⟨span.start + offset, span.stop + offset⟩

/-- Drop characters until `bytes` bytes are gone; none when a character straddles the limit
or the text is too short. -/
def dropBytes : Nat → List Char → Option (List Char)
  | 0, text => some text
  | _ + 1, [] => none
  | bytes + 1, first :: rest =>
      if first.utf8Size ≤ bytes + 1 then dropBytes (bytes + 1 - first.utf8Size) rest else none

/-- The characters that lie in the first `bytes` bytes; none when a character straddles the limit
or the text is too short. -/
def takeBytes : Nat → List Char → Option (List Char)
  | 0, _ => some []
  | _ + 1, [] => none
  | bytes + 1, first :: rest =>
      if first.utf8Size ≤ bytes + 1 then
        (takeBytes (bytes + 1 - first.utf8Size) rest).map (first :: ·)
      else none

/-- The source text in a range; none when an end is no character boundary of the source. -/
def slice (span : Span) (source : List Char) : Option (List Char) :=
  (dropBytes span.start source).bind (takeBytes (span.stop - span.start))

end Span

end CreatureNaming
