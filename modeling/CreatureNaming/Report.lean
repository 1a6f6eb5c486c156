import CreatureNaming.Number.Digits
import CreatureNaming.Pattern.Span
import CreatureNaming.Text.Blank
import CreatureNaming.Text.Width

/-! Reports that show a place in a source text.

A report has a heading, the lines of the source that the place lies in, and a note that points at
the place. It is built from pieces that have an ink, and printed with or without colors. Offsets
count characters.
-/

set_option autoImplicit false

namespace CreatureNaming

/-- What a piece of a report belongs to, which gives its color. -/
inductive Ink where
  | plain
  /-- The place and the note. -/
  | marked
  /-- The frame and the line numbers. -/
  | frame
  /-- The frame beside lines without a number. -/
  | quietFrame
  /-- The source outside of the place. -/
  | faint
  deriving DecidableEq, Repr

/-- The terminal code of an ink. -/
def Ink.code? : Ink → Option String
  | .plain => none
  | .marked => some "33"
  | .frame => some "38;5;246"
  | .quietFrame => some "38;5;240"
  | .faint => some "38;5;249"

structure Piece where
  ink : Ink
  text : String
  deriving DecidableEq, Repr

def Piece.print (colored : Bool) (piece : Piece) : String :=
  match (if colored then piece.ink.code? else none) with
  | some code => "\x1b[" ++ code ++ "m" ++ piece.text ++ "\x1b[0m"
  | none => piece.text

/-- A line of a source, the characters that end it included. -/
structure SourceLine where
  offset : Nat
  chars : List Char
  deriving DecidableEq, Repr

namespace SourceLine

def stop (line : SourceLine) : Nat := line.offset + line.chars.length

/-- What is shown of a line. -/
def shown (line : SourceLine) : List Char := Text.trimEndChars line.chars

def isTerminator (c : Char) : Bool :=
  c == '\r' || c == '\n' || c == '\x0b' || c == '\x0c' || c == '\u0085' || c == '\u2028' ||
    c == '\u2029'

/-- Put a character in front of the first line; `none` starts a line. -/
def extend (c : Char) : List (List Char) → List (List Char)
  | [] => [[c]]
  | first :: rest => (c :: first) :: rest

/-- Split behind each terminator; carriage return and line feed are one. -/
def split : List Char → List (List Char)
  | [] => []
  | '\r' :: '\n' :: rest => ['\r', '\n'] :: split rest
  | c :: rest => if isTerminator c then [c] :: split rest else extend c (split rest)

def withOffsets (offset : Nat) : List (List Char) → List SourceLine
  | [] => []
  | chars :: rest => ⟨offset, chars⟩ :: withOffsets (offset + chars.length) rest

/-- The lines of a source; an empty source has one empty line. -/
def ofSource (source : List Char) : List SourceLine :=
  if source.isEmpty then [⟨0, []⟩] else withOffsets 0 (split source)

end SourceLine

/-- A place in a source, with a message about it and a note that points at it. -/
structure Report where
  sourceName : String
  source : List Char
  place : Span
  message : String
  note : String

namespace Report

def mark (text : String) : Piece := ⟨.marked, text⟩

def blank (count : Nat) : Piece := ⟨.plain, "".pushn ' ' count⟩

def lineBreak : Piece := ⟨.plain, "\n"⟩

/-- The tab stops of a terminal. -/
def tabWidth : Nat := 4

/-- What is shown for the character at a position of a line, and its columns. A tab fills up to
the next stop. -/
def display (position : Nat) (c : Char) : Char × Nat :=
  if c = '\t' then (' ', (position / tabWidth + 1) * tabWidth - position)
  else if Text.isBlank c then (' ', 1)
  else (c, Text.columnWidth c)

/-- The columns at each of `count` positions of a line; a position behind its end has one. -/
def columns (shown : List Char) (count : Nat) : List Nat :=
  (List.range count).map fun position =>
    match shown[position]? with
    | some c => (display position c).2
    | none => 1

/-- What parts of a text take up together. -/
def total (counts : List Nat) : Nat := counts.foldr (· + ·) 0

def holds (place : Span) (offset : Nat) : Bool := place.start ≤ offset && offset < place.stop

/-- The text of a line, its characters inside of the place marked. -/
def sourceText (report : Report) (line : SourceLine) : List Piece :=
  line.shown.zipIdx.flatMap fun (c, position) =>
    let (shown, width) := display position c
    let ink : Ink := if holds report.place (line.offset + position) then .marked else .faint
    let count := if shown = ' ' then width else 1
    List.replicate count ⟨ink, shown.toString⟩

/-- The frame beside a line with a number. -/
def numbered (width index : Nat) : List Piece :=
  let number := Number.integerText (index + 1)
  [blank 1, ⟨.frame, "".pushn ' ' (width - number.length) ++ number ++ " │"⟩, blank 1]

/-- The frame beside a line without a number. -/
def unnumbered (width : Nat) (bar : String) : List Piece :=
  [blank 1, ⟨.quietFrame, "".pushn ' ' (width + 1) ++ bar⟩, blank 1]

def marks (text : String) (count : Nat) : List Piece := List.replicate count (mark text)

/-- Underline the place, and point at its middle from the note. -/
def underline (report : Report) (width : Nat) (line : SourceLine) : List Piece :=
  let start := report.place.start - line.offset
  let stop := report.place.stop - line.offset
  let middle := (report.place.start + report.place.stop) / 2 - line.offset
  let widths := (columns line.shown (stop + 2)).zipIdx
  let under := widths.flatMap fun (width, position) =>
    if position < start || stop ≤ position then [blank width]
    else if position = middle && width != 0 then mark "┬" :: marks "─" (width - 1)
    else marks "─" width
  let arrow := widths.flatMap fun (width, position) =>
    if position < middle then [blank width]
    else if position = middle && width != 0 then mark "╰" :: marks "─" (width - 1)
    else marks "─" width
  unnumbered width "│" ++ under ++ [lineBreak] ++ unnumbered width "│" ++ arrow ++
    [⟨.plain, " " ++ report.note⟩, lineBreak]

/-- The line of a place that lies in one line. A place that goes beyond the source is not
shown. -/
def singleLine (report : Report) (width index : Nat) (line : SourceLine) : List Piece :=
  if report.place.stop ≤ line.stop then
    numbered width index ++ report.sourceText line ++ [lineBreak] ++ report.underline width line
  else unnumbered width "│" ++ [lineBreak]

/-- The first line of a place that goes on in the next one. -/
def firstLine (report : Report) (width index : Nat) (line : SourceLine) : List Piece :=
  numbered width index ++ [mark "╭", mark "─", mark "▶", mark " "] ++ report.sourceText line ++
    [lineBreak]

/-- The last line of a place, and the note behind it. -/
def lastLine (report : Report) (width index : Nat) (line : SourceLine) : List Piece :=
  let widths := columns line.shown (line.chars.length + 2)
  numbered width index ++ [mark "├", mark "─", mark "▶", mark " "] ++ report.sourceText line ++
    [lineBreak] ++
    unnumbered width "│" ++ [mark "│", blank 3, blank (total widths), lineBreak] ++
    unnumbered width "│" ++ mark "╰" :: marks "─" 3 ++ marks "─" (total widths) ++
    [⟨.plain, " " ++ report.note⟩, lineBreak]

/-- What stands for the lines between the first and the last one. -/
def gapLine (width : Nat) : List Piece :=
  unnumbered width "┆" ++ [mark "┆", blank 3, lineBreak]

/-- The line that an offset lies in; the end of the source belongs to its last line. -/
def lineAt? (lines : List SourceLine) (offset : Nat) : Option Nat :=
  if offset ≤ total (lines.map fun line => line.chars.length) then
    some ((lines.takeWhile fun line => line.offset ≤ offset).length - 1)
  else none

/-- The lines of a place from the first to the last one. -/
def body (report : Report) (width first last : Nat) (lines : List SourceLine) : List Piece :=
  ((lines.zipIdx.drop first).take (last + 1 - first)).flatMap fun (line, index) =>
    if first = last then report.singleLine width index line
    else if index = first then report.firstLine width index line
    else if index = last && report.place.stop ≤ line.stop then report.lastLine width index line
    else if index = first + 1 then gapLine width
    else []

/-- The pieces of a report. A place that begins or ends beyond the source has a heading only. -/
def pieces (report : Report) : List Piece :=
  let lines := SourceLine.ofSource report.source
  let heading : List Piece := [mark "Warning:", ⟨.plain, " " ++ report.message⟩, lineBreak]
  match lineAt? lines report.place.start, lineAt? lines (report.place.stop - 1) with
  | some first, some last =>
      let width := (Number.decimalDigits (last + 1)).length
      let column := report.place.start - (lines[first]?.elim 0 SourceLine.offset)
      let position := ":" ++ Number.integerText (first + 1) ++ ":" ++ Number.integerText (column + 1)
      heading ++
        [blank (width + 2), ⟨.frame, "╭"⟩, ⟨.frame, "─"⟩, ⟨.frame, "["⟩,
          ⟨.plain, report.sourceName ++ position⟩, ⟨.frame, "]"⟩, lineBreak,
          blank (width + 2), ⟨.frame, "│"⟩, lineBreak] ++
        report.body width first last lines ++
        [⟨.frame, "".pushn '─' (width + 2) ++ "╯"⟩, lineBreak]
  | _, _ => heading

def print (colored : Bool) (report : Report) : String :=
  report.pieces.foldl (fun text piece => text ++ piece.print colored) ""

end Report

end CreatureNaming
