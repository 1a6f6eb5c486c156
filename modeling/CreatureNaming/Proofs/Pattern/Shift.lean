import CreatureNaming.Proofs.Pattern.PairedTree
import CreatureNaming.Proofs.Pattern.Places
import CreatureNaming.Proofs.Pattern.Written

/-! A pattern that stands further behind in a source.

The lexemes of a text are the same wherever the text stands, and what is read from them is too, but
for the places. Each step of a derivation is a step on the shifted lexemes.
-/

set_option autoImplicit false

namespace CreatureNaming.Pattern

def Lexeme.shift (offset : Nat) (lexeme : Lexeme) : Lexeme :=
  { lexeme with span := lexeme.span.shift offset }

def Opening.shift (offset : Nat) (found : Opening) : Opening :=
  { found with start := found.start + offset, nameSpan := found.nameSpan.shift offset }

/-- The nodes, that many bytes further behind. -/
def shiftNodes (offset : Nat) (nodes : List Node) : List Node :=
  mapSpans (Span.shift offset) nodes

variable {pending stop : Nat} {input rest : List Lexeme} {done nodes : List Node}
  {arguments : List (List Node)} {found : Opening} {name : String} {span : Span} {first : Lexeme}

/-! ## Lexemes -/

theorem lexemesFrom_shift (start offset : Nat) (text : List Char) :
    lexemesFrom (start + offset) text = (lexemesFrom start text).map (Lexeme.shift offset) := by
  have further (start size : Nat) : start + offset + size = start + size + offset := by omega
  fun_induction lexemesFrom start text with
  | case1 start => rw [lexemesFrom]; rfl
  | case2 start first rest plain run stop ih =>
    rw [lexemesFrom.eq_def]
    simp only [dif_pos plain]
    rw [further, ih]
    rfl
  | case3 start first rest structural kind named ih =>
    rw [lexemesFrom_character named, further, ih]
    rfl
  | case4 start first structural unnamed second rest escapes ih =>
    obtain rfl := eq_backslash_of_ofStructural? structural unnamed
    rw [lexemesFrom_escaped escapes, further, ih]
    rfl
  | case5 start first structural unnamed second rest alone ih =>
    obtain rfl := eq_backslash_of_ofStructural? structural unnamed
    rw [lexemesFrom_backslash (by simpa using alone), further, ih]
    rfl
  | case6 start first structural unnamed =>
    rw [lexemesFrom.eq_def]
    simp only [dif_neg structural, unnamed, further]
    rfl

theorem opening?_shift (offset : Nat) (opens : opening? input = some (found, rest)) :
    opening? (input.map (Lexeme.shift offset)) =
      some (found.shift offset, rest.map (Lexeme.shift offset)) := by
  obtain ⟨_, _, _, _, _, _, identifier, rfl, rfl⟩ := opening?_shape opens
  simp [opening?, Lexeme.shift, Opening.shift, Span.shift, identifier]

theorem reference?_shift (offset : Nat) (refers : reference? input = some (name, span, rest)) :
    reference? (input.map (Lexeme.shift offset)) =
      some (name, span.shift offset, rest.map (Lexeme.shift offset)) := by
  obtain ⟨_, _, _, identifier, rfl, rfl⟩ := reference?_shape refers
  simp [reference?, Lexeme.shift, Span.shift, Span.through, identifier]

theorem closing?_shift (offset : Nat) (closes : closing? input = some (span, rest)) :
    closing? (input.map (Lexeme.shift offset)) =
      some (span.shift offset, rest.map (Lexeme.shift offset)) := by
  obtain ⟨_, _, rfl, rfl⟩ := closing?_shape closes
  rfl

theorem opening?_none_shift (offset : Nat) (unopened : opening? input = none) :
    opening? (input.map (Lexeme.shift offset)) = none := by
  refine Option.eq_none_iff_forall_ne_some.mpr fun ⟨found, behind⟩ opens => ?_
  obtain ⟨_, _, _, _, _, _, identifier, -, same⟩ := opening?_shape opens
  -- The kinds of the lexemes were the same before.
  simp only [List.map_eq_cons_iff] at same
  obtain ⟨⟨_, _⟩, _, rfl, ⟨⟩, ⟨_, _⟩, _, rfl, ⟨⟩, ⟨_, _⟩, _, rfl, ⟨⟩, ⟨_, _⟩, _, rfl, ⟨⟩,
    ⟨_, _⟩, _, rfl, ⟨⟩, -⟩ := same
  simp [opening?, identifier] at unopened

theorem reference?_none_shift (offset : Nat) (unreferred : reference? input = none) :
    reference? (input.map (Lexeme.shift offset)) = none := by
  refine Option.eq_none_iff_forall_ne_some.mpr fun ⟨name, span, behind⟩ refers => ?_
  obtain ⟨_, _, _, identifier, -, same⟩ := reference?_shape refers
  simp only [List.map_eq_cons_iff] at same
  obtain ⟨⟨_, _⟩, _, rfl, ⟨⟩, ⟨_, _⟩, _, rfl, ⟨⟩, ⟨_, _⟩, _, rfl, ⟨⟩, -⟩ := same
  simp [reference?, identifier] at unreferred

theorem closing?_none_shift (offset : Nat) (unclosed : closing? input = none) :
    closing? (input.map (Lexeme.shift offset)) = none := by
  refine Option.eq_none_iff_forall_ne_some.mpr fun ⟨span, behind⟩ closes => ?_
  obtain ⟨_, _, -, same⟩ := closing?_shape closes
  simp only [List.map_eq_cons_iff] at same
  obtain ⟨⟨_, _⟩, _, rfl, ⟨⟩, ⟨_, _⟩, _, rfl, ⟨⟩, -⟩ := same
  simp [closing?] at unclosed

/-! ## Nodes -/

theorem shiftNodes_mergeLiterals (offset : Nat) (nodes : List Node) :
    shiftNodes offset (mergeLiterals nodes) = mergeLiterals (shiftNodes offset nodes) :=
  mapSpans_mergeLiterals (fun _ _ => rfl) nodes

theorem shiftNodes_argument (offset : Nat) (nodes : List Node) :
    shiftNodes offset (argument nodes.reverse) = argument (shiftNodes offset nodes).reverse := by
  rw [shiftNodes, mapSpans_argument fun _ _ => rfl, mapSpans_reverse]
  rfl

theorem shiftNodes_append (offset : Nat) (first second : List Node) :
    shiftNodes offset (first ++ second) = shiftNodes offset first ++ shiftNodes offset second :=
  mapSpans_append _ first second

theorem shiftNodes_take (offset count : Nat) (input : List Lexeme) :
    shiftNodes offset ((input.take count).map Lexeme.toNode) =
      ((input.map (Lexeme.shift offset)).take count).map Lexeme.toNode := by
  rw [shiftNodes, mapSpans_eq_map, List.map_map, ← List.map_take, List.map_map]
  rfl

/-! ## Derivations -/

theorem ArgumentsPaired.shift (offset : Nat)
    (paired : ArgumentsPaired pending done input arguments stop rest) :
    ArgumentsPaired pending (shiftNodes offset done) (input.map (Lexeme.shift offset))
      (mapSpansOfArguments (Span.shift offset) arguments) (stop + offset)
      (rest.map (Lexeme.shift offset)) := by
  induction paired with
  | @closing pending done input rest span closes =>
    have shifted : ArgumentsPaired pending (shiftNodes offset done) _ _ _ _ :=
      .closing (closing?_shift offset closes)
    rwa [← shiftNodes_argument] at shifted
  | @pipe pending done first rest behind arguments stop separates others ih =>
    have shifted : ArgumentsPaired pending (shiftNodes offset done)
        (first.shift offset :: _) _ _ _ := .pipe separates ih
    rwa [← shiftNodes_argument] at shifted
  | call opens room inside others ihInside ihOthers =>
    exact .call (opening?_shift offset opens) room ihInside ihOthers
  | tooDeep opens deep others ih =>
    refine .tooDeep (opening?_shift offset opens) deep ?_
    rwa [shiftNodes_append, shiftNodes, mapSpans_reverse, ← shiftNodes, shiftNodes_take] at ih
  | reference refers others ih => exact .reference (reference?_shift offset refers) ih
  | literal inside unopened unreferred unclosed others ih =>
    exact .literal inside (opening?_none_shift offset unopened)
      (reference?_none_shift offset unreferred) (closing?_none_shift offset unclosed) ih

/-- Shifted lexemes have the same nodes, shifted. -/
theorem NodesPaired.shift (offset : Nat) (paired : NodesPaired pending input nodes) :
    NodesPaired pending (input.map (Lexeme.shift offset)) (shiftNodes offset nodes) := by
  induction paired with
  | nil pending => exact .nil pending
  | call opens room inside others ih =>
    exact .call (opening?_shift offset opens) room (inside.shift offset) ih
  | unclosed opens room others ih =>
    rw [shiftNodes_append, shiftNodes_take]
    exact .unclosed (opening?_shift offset opens) room ih
  | tooDeep opens deep others ih =>
    rw [shiftNodes_append, shiftNodes_take]
    exact .tooDeep (opening?_shift offset opens) deep ih
  | reference refers others ih => exact .reference (reference?_shift offset refers) ih
  | literal unopened unreferred unclosed others ih =>
    exact .literal (opening?_none_shift offset unopened) (reference?_none_shift offset unreferred)
      (unclosed.imp_left (closing?_none_shift offset)) ih

end CreatureNaming.Pattern
