import CreatureNaming.Text.Blank
import CreatureNaming.Text.CaseTable

/-! Capital and small letters of all scripts. -/

set_option autoImplicit false

namespace CreatureNaming.Text

def CaseRun.holds (run : CaseRun) (code : Nat) : Bool :=
  run.first ≤ code && code ≤ run.last && (code - run.first) % run.step == 0

/-- Map a character by the tables; one that is in none of them stays. -/
def mapCase (runs : List CaseRun) (texts : List (Nat × List Nat)) (c : Char) : List Char :=
  match runs.find? fun run => run.holds c.toNat with
  | some run => [.ofNat ((c.toNat : Int) + run.offset).toNat]
  | none =>
      match texts.find? fun (code, _) => code == c.toNat with
      | some (_, codes) => codes.map Char.ofNat
      | none => [c]

def capital (c : Char) : List Char := mapCase capitalRuns capitalTexts c

def small (c : Char) : List Char := mapCase smallRuns smallTexts c

def inRanges (ranges : List (Nat × Nat)) (c : Char) : Bool :=
  ranges.any fun (first, last) => first ≤ c.toNat && c.toNat ≤ last

/-- Whether the next character that is not ignorable for case is a letter with case. -/
def casedNext (text : List Char) : Bool :=
  match text.dropWhile (inRanges caseIgnorableRanges) with
  | [] => false
  | next :: _ => inRanges casedRanges next

/-- Lower a text; `before` is what precedes it, the nearest character first. A capital sigma at
the end of a word has a form of its own. -/
def lowerFrom (before : List Char) : List Char → List Char
  | [] => []
  | c :: rest =>
      (if c = 'Σ' then [if casedNext before && !casedNext rest then 'ς' else 'σ'] else small c) ++
        lowerFrom (c :: before) rest

def lower (text : String) : String := .ofList (lowerFrom [] text.toList)

def upper (text : String) : String := .ofList (text.toList.flatMap capital)

/-- Capitals at the start of words, small letters elsewhere; words are separated by blanks. -/
def titleFrom (wordStart : Bool) : List Char → List Char
  | [] => []
  | c :: rest =>
      if isBlank c then c :: titleFrom true rest
      else (if wordStart then capital c else small c) ++ titleFrom false rest

def title (text : String) : String := .ofList (titleFrom true text.toList)

end CreatureNaming.Text
