import CreatureNaming.Proofs.Naming.NumberUse
import CreatureNaming.Proofs.Pattern.PairedTree
import CreatureNaming.Proofs.Pattern.RoundTrip

/-! Patterns that show a single token.

The name of a token between braces, in any case, is a pattern that is this token and nothing else.
It renders as the token's value, unless that is the unique number or random digits.
-/

set_option autoImplicit false

namespace CreatureNaming

namespace Pattern

/-- A name between single braces. -/
def referenceTo (name : String) : String := "\x7b" ++ name ++ "\x7d"

theorem isIdentifier_foldCase (name : String) :
    isIdentifier (Text.foldCase name) = isIdentifier name := by
  have alpha (c : Char) : c.toLower.isAlpha = c.isAlpha := by
    delta Char.toLower Char.isAlpha Char.isUpper Char.isLower
    grind
  have alphanum (c : Char) : c.toLower.isAlphanum = c.isAlphanum := by
    delta Char.toLower Char.isAlphanum Char.isAlpha Char.isUpper Char.isLower Char.isDigit
    grind
  have underscore (c : Char) : (c.toLower == '_') = (c == '_') := by
    have code : '_'.val = 95 := rfl
    rw [Bool.eq_iff_iff, beq_iff_eq, beq_iff_eq, Char.ext_iff, Char.ext_iff, code]
    delta Char.toLower
    grind
  unfold isIdentifier Text.foldCase
  rw [String.toList_ofList]
  cases name.toList with
  | nil => rfl
  | cons first rest => simp [alpha, alphanum, underscore, Function.comp_def]

theorem parse_referenceTo {name : String} (identifier : isIdentifier name = true) :
    ∃ span, parse (referenceTo name) = [.token span name] := by
  have canonical : areCanonical [.token ⟨0, 0⟩ name] = true := by
    simp [areCanonical, Node.isCanonical, Node.isLiteral, identifier]
  obtain ⟨lexed, stop, same, inside⟩ :=
    lexemesFrom_nodes [.token ⟨0, 0⟩ name] [] 0 canonical stops_nil
  obtain ⟨_, _, rfl, ⟨first, middle, last, rfl⟩, rfl⟩ := inside
  have whole : lexemes (referenceTo name) =
      [⟨.braceOpen, first⟩, ⟨.text name, middle⟩, ⟨.braceClose, last⟩] := by
    have chars : (referenceTo name).toList = written [.token ⟨0, 0⟩ name] ++ [] := by
      simp [referenceTo, written, Node.written]
    rw [lexemes, chars, same, lexemesFrom]
    rfl
  have paired : NodesPaired 0 (lexemes (referenceTo name)) [.token (first.through last) name] := by
    rw [whole]
    exact .reference (reference?_written identifier first middle last []) (.nil 0)
  refine ⟨first.through last, ?_⟩
  rw [paired.parse]
  simp [mergeLiterals]

end Pattern

namespace Token

variable {token : Token} {name source : String}

/-- A pattern is the name of a token between braces, in any case. -/
def IsShownBy (token : Token) (source : String) : Prop :=
  ∃ name, Text.foldCase name = Text.foldCase token.name ∧ source = Pattern.referenceTo name

theorem isShownBy_name (token : Token) : token.IsShownBy (Pattern.referenceTo token.name) :=
  ⟨token.name, rfl, rfl⟩

theorem ofName?_of_foldCase (same : Text.foldCase name = Text.foldCase token.name) :
    ofName? name = some token := by
  rw [ofName?, same]
  exact ofFolded?_catalog token (mem_catalog token)

theorem isIdentifier_name (token : Token) : Pattern.isIdentifier token.name = true := by
  have identifiers : ∀ token ∈ catalog, Pattern.isIdentifier token.name = true := by
    decide +kernel
  exact identifiers token (mem_catalog token)

theorem IsShownBy.parse (shown : token.IsShownBy source) :
    ∃ span name, ofName? name = some token ∧ Pattern.parse source = [.token span name] := by
  obtain ⟨name, same, rfl⟩ := shown
  have identifier : Pattern.isIdentifier name = true := by
    rw [← Pattern.isIdentifier_foldCase, same, Pattern.isIdentifier_foldCase, isIdentifier_name]
  obtain ⟨span, parsed⟩ := Pattern.parse_referenceTo identifier
  exact ⟨span, name, ofName?_of_foldCase same, parsed⟩

end Token

namespace Context

variable {context : Context} {token : Token}

/-- A text is what a token renders as by itself. -/
def Shows (context : Context) (token : Token) (text : String) : Prop :=
  ∀ unique source, token.IsShownBy source →
    context.render unique (Pattern.parse source) = ⟨text, false⟩

theorem shows_value (context : Context) (unnumbered : token ≠ .uniqueNumber)
    (known : token ≠ .random) : context.Shows token (token.value context) := by
  intro unique source shown
  obtain ⟨span, name, named, parsed⟩ := shown.parse
  rw [parsed, render, renderNode, render, renderToken_value context unique span named unnumbered
    known]
  simp [Rendered.append, Rendered.empty]

theorem Shows.eq {first second : String} (showsFirst : context.Shows token first)
    (showsSecond : context.Shows token second) : first = second := by
  have same := (showsFirst .placeholder _ token.isShownBy_name).symm.trans
    (showsSecond .placeholder _ token.isShownBy_name)
  exact congrArg Rendered.text same

end Context

end CreatureNaming
