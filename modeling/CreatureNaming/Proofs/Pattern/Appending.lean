import CreatureNaming.Proofs.Pattern.Run
import CreatureNaming.Proofs.Pattern.Shift

/-! Appending to a finished pattern.

A pattern is finished if no opening is pending at its end and its last node is a token or a call.
Then it ends with a closing brace of that node, and no lexeme and no construct goes on across the
end: neither lexing nor pairing nor reading sees what follows.
-/

set_option autoImplicit false

namespace CreatureNaming.Pattern

/-- The last of some nodes, if there is one, is no literal. -/
def EndsBuilt (nodes : List Node) : Prop :=
  ∀ node ∈ nodes.getLast?, node.isLiteral = false

/-- The last of some lexemes, if there is one, is a closing brace. -/
def EndsClosed (input : List Lexeme) : Prop :=
  ∀ lexeme ∈ input.getLast?, lexeme.kind = .braceClose

variable {pending count next stop start : Nat} {input here rest later middle : List Lexeme}
  {done nodes more : List Node} {node : Node} {arguments : List (List Node)} {found : Opening}
  {name : String} {span : Span} {first : Lexeme}

theorem EndsBuilt.behind {before : List Node} (built : EndsBuilt (before ++ nodes)) :
    EndsBuilt nodes := by
  intro node last
  refine built node ?_
  rw [List.getLast?_append, Option.mem_def.mp last]
  rfl

theorem EndsBuilt.tail (built : EndsBuilt (node :: nodes)) : EndsBuilt nodes := by
  have whole : EndsBuilt ([node] ++ nodes) := built
  exact whole.behind

theorem EndsBuilt.ne_nil (built : EndsBuilt (node :: nodes)) (literal : node.isLiteral = true) :
    nodes ≠ [] := by
  rintro rfl
  rw [built node rfl] at literal
  cases literal

theorem EndsBuilt.cons (built : EndsBuilt nodes) (goesOn : nodes ≠ []) :
    EndsBuilt (node :: nodes) := by
  intro last ends
  rw [List.getLast?_cons_of_ne_nil goesOn] at ends
  exact built last ends

theorem EndsClosed.append (closed : EndsClosed rest) (goesOn : rest ≠ []) (before : List Lexeme) :
    EndsClosed (before ++ rest) := by
  intro last ends
  rw [List.getLast?_append_of_ne_nil _ goesOn] at ends
  exact closed last ends

theorem EndsClosed.cons (closed : EndsClosed rest) (closes : first.kind = .braceClose) :
    EndsClosed (first :: rest) := by
  cases rest with
  | nil =>
    rintro last ⟨⟩
    exact closes
  | cons second rest => exact closed.append (by simp) [first]

theorem EndsClosed.tail (closed : EndsClosed (first :: rest)) : EndsClosed rest := by
  intro lexeme last
  refine closed lexeme ?_
  rw [List.getLast?_cons, Option.mem_def.mp last]
  rfl

theorem EndsClosed.ne_nil (closed : EndsClosed (first :: rest)) (other : first.kind ≠ .braceClose) :
    rest ≠ [] := by
  rintro rfl
  exact other (closed first rfl)

/-! ## Lexemes -/

/-- No lexeme goes on behind a closing brace. -/
theorem lexemesFrom_append (start : Nat) (text later : List Char)
    (closed : EndsClosed (lexemesFrom start text)) :
    lexemesFrom start (text ++ later) =
      lexemesFrom start text ++ lexemesFrom (start + Text.byteLength text) later := by
  fun_induction lexemesFrom start text with
  | case1 start => rfl
  | case2 start first rest plain run stop ih =>
    have split : run ++ (first :: rest).dropWhile (fun c => !isStructural c) = first :: rest :=
      List.takeWhile_append_dropWhile
    have all : (run.all fun c => !isStructural c) = true := List.all_takeWhile
    have plainRun : ∀ c ∈ run, isStructural c = false := by simpa using all
    have nonempty : run ≠ [] := by simp [run, plain]
    have goesOn := closed.ne_nil (by simp)
    -- The run does not reach the end, so it is stopped by a character of the first text.
    have stops : Stops ((first :: rest).dropWhile (fun c => !isStructural c) ++ later) := by
      have head := List.head?_dropWhile_not (fun c => !isStructural c) (first :: rest)
      cases dropped : (first :: rest).dropWhile fun c => !isStructural c with
      | nil =>
        rw [dropped, lexemesFrom] at goesOn
        exact absurd rfl goesOn
      | cons c others =>
        rw [dropped] at head
        exact stops_cons (by simpa using head) _
    conv_lhs => rw [← split]
    conv_rhs => rw [← split]
    rw [List.append_assoc, lexemesFrom_run nonempty plainRun stops, ih closed.tail,
      List.cons_append, Text.byteLength_append, ← Nat.add_assoc, split]
  | case3 start first rest structural kind named ih =>
    rw [List.cons_append, lexemesFrom_character named, ih closed.tail, List.cons_append,
      byteLength_structural (by simpa using structural), Nat.add_assoc, Nat.add_comm 1]
  | case4 start first structural unnamed second rest escapes ih =>
    obtain rfl := eq_backslash_of_ofStructural? structural unnamed
    rw [List.cons_append, List.cons_append, lexemesFrom_escaped escapes, ih closed.tail,
      List.cons_append, byteLength_structural rfl, byteLength_structural escapes, Nat.add_assoc,
      Nat.add_comm 2]
  | case5 start first structural unnamed second rest alone ih =>
    obtain rfl := eq_backslash_of_ofStructural? structural unnamed
    rw [List.cons_append, List.cons_append, lexemesFrom_backslash (by simpa using alone),
      ← List.cons_append, ih closed.tail, List.cons_append, Text.byteLength_cons '\\',
      ← Nat.add_assoc]
    rfl
  | case6 start first structural unnamed => exact absurd rfl (closed.ne_nil (by simp))

/-! ## Constructs -/

theorem opening?_append (opens : opening? input = some (found, rest)) (later : List Lexeme) :
    opening? (input ++ later) = some (found, rest ++ later) := by
  obtain ⟨_, _, _, _, _, _, identifier, rfl, rfl⟩ := opening?_shape opens
  simp [opening?, identifier]

theorem reference?_append (refers : reference? input = some (name, span, rest))
    (later : List Lexeme) : reference? (input ++ later) = some (name, span, rest ++ later) := by
  obtain ⟨_, _, _, identifier, rfl, rfl⟩ := reference?_shape refers
  simp [reference?, identifier]

theorem closing?_append (closes : closing? input = some (span, rest)) (later : List Lexeme) :
    closing? (input ++ later) = some (span, rest ++ later) := by
  obtain ⟨_, _, rfl, rfl⟩ := closing?_shape closes
  rfl

/-- Behind an opening, the five lexemes of the opening are the same. -/
theorem take_append_of_opening? (opens : opening? input = some (found, rest))
    (later : List Lexeme) : (input ++ later).take 5 = input.take 5 := by
  obtain ⟨_, _, _, _, _, _, -, -, rfl⟩ := opening?_shape opens
  rfl

/-- Before a closing brace that is not its own, no opening is cut off. -/
theorem opening?_none_append (closed : ∃ lexeme ∈ rest, lexeme.kind = .braceClose)
    (unopened : opening? (first :: rest) = none) (later : List Lexeme) :
    opening? (first :: rest ++ later) = none := by
  refine Option.eq_none_iff_forall_ne_some.mpr fun ⟨found, behind⟩ opens => ?_
  obtain ⟨_, _, _, _, _, _, identifier, -, same⟩ := opening?_shape opens
  rcases rest with _ | ⟨second, _ | ⟨third, _ | ⟨fourth, _ | ⟨fifth, rest⟩⟩⟩⟩
  case cons.cons.cons.cons =>
    simp only [List.cons_append, List.cons.injEq] at same
    obtain ⟨rfl, rfl, rfl, rfl, rfl, -⟩ := same
    simp [opening?, identifier] at unopened
  -- Of an opening that were cut off, no lexeme is a closing brace.
  all_goals simp_all

theorem reference?_none_append (closed : ∃ lexeme ∈ rest, lexeme.kind = .braceClose)
    (unreferred : reference? (first :: rest) = none) (later : List Lexeme) :
    reference? (first :: rest ++ later) = none := by
  refine Option.eq_none_iff_forall_ne_some.mpr fun ⟨name, span, behind⟩ refers => ?_
  obtain ⟨_, _, _, identifier, -, same⟩ := reference?_shape refers
  rcases rest with _ | ⟨second, _ | ⟨third, rest⟩⟩
  case cons.cons =>
    simp only [List.cons_append, List.cons.injEq] at same
    obtain ⟨rfl, rfl, rfl, -⟩ := same
    simp [reference?, identifier] at unreferred
  all_goals simp_all

theorem closing?_none_append (goesOn : rest ≠ []) (unclosed : closing? (first :: rest) = none)
    (later : List Lexeme) : closing? (first :: rest ++ later) = none := by
  refine Option.eq_none_iff_forall_ne_some.mpr fun ⟨span, behind⟩ closes => ?_
  obtain ⟨_, _, -, same⟩ := closing?_shape closes
  cases rest with
  | nil => exact goesOn rfl
  | cons second rest =>
    simp only [List.cons_append, List.cons.injEq] at same
    obtain ⟨rfl, rfl, -⟩ := same
    simp [closing?] at unclosed

/-! ## Derivations -/

theorem ArgumentsPaired.exists_braceClose
    (paired : ArgumentsPaired pending done input arguments stop rest) :
    ∃ lexeme ∈ input, lexeme.kind = .braceClose := by
  obtain ⟨before, last, rfl, closes, -⟩ := paired.consumed
  exact ⟨last, by simp, closes⟩

theorem ArgumentsPaired.append (paired : ArgumentsPaired pending done input arguments stop rest)
    (later : List Lexeme) :
    ArgumentsPaired pending done (input ++ later) arguments stop (rest ++ later) := by
  induction paired with
  | closing closes => exact .closing (closing?_append closes later)
  | pipe separates others ih => exact .pipe separates ih
  | call opens room inside others ihInside ihOthers =>
    exact .call (opening?_append opens later) room ihInside ihOthers
  | tooDeep opens deep others ih =>
    refine .tooDeep (opening?_append opens later) deep ?_
    rwa [take_append_of_opening? opens]
  | reference refers others ih => exact .reference (reference?_append refers later) ih
  | literal inside unopened unreferred unclosed others ih =>
    obtain ⟨last, member, closes⟩ := others.exists_braceClose
    exact .literal inside (opening?_none_append ⟨last, member, closes⟩ unopened later)
      (reference?_none_append ⟨last, member, closes⟩ unreferred later)
      (closing?_none_append (List.ne_nil_of_mem member) unclosed later) ih

theorem NodesPaired.eq_nil (paired : NodesPaired pending [] nodes) : nodes = [] := by
  cases paired with
  | nil => rfl
  | call opens => cases opens
  | unclosed opens => cases opens
  | tooDeep opens => cases opens
  | reference refers => cases refers

/-- The last node ends with the last lexeme. -/
theorem NodesPaired.endsClosed (paired : NodesPaired pending input nodes)
    (built : EndsBuilt nodes) : EndsClosed input := by
  -- Where text is read, there is more to come.
  have behindText {pending : Nat} {rest : List Lexeme} {nodes : List Node} (before : List Lexeme)
      (others : NodesPaired pending rest nodes) (goesOn : nodes ≠ []) (closed : EndsClosed rest) :
      EndsClosed (before ++ rest) := by
    refine closed.append ?_ before
    rintro rfl
    exact goesOn others.eq_nil
  induction paired with
  | nil pending => nofun
  | call opens room inside others ih =>
    obtain ⟨before, last, rfl, closes, -⟩ := inside.consumed
    obtain ⟨front, rfl⟩ := suffix_of_opening? opens
    rw [← List.append_assoc]
    exact ((ih built.tail).cons closes).append (by simp) _
  | unclosed opens room others ih =>
    obtain ⟨_, _, _, _, _, _, -, -, rfl⟩ := opening?_shape opens
    have goesOn := built.tail.tail.tail.tail.ne_nil rfl
    exact behindText [_, _, _, _, _] others goesOn (ih built.behind)
  | tooDeep opens deep others ih =>
    obtain ⟨_, _, _, _, _, _, -, -, rfl⟩ := opening?_shape opens
    have goesOn := built.tail.tail.tail.tail.ne_nil rfl
    exact behindText [_, _, _, _, _] others goesOn (ih built.behind)
  | reference refers others ih =>
    obtain ⟨first, middle, last, -, -, rfl⟩ := reference?_shape refers
    exact ((ih built.tail).cons rfl).append (by simp) [_, _]
  | literal unopened unreferred unclosed others ih =>
    exact behindText [_] others (built.ne_nil rfl) (ih built.tail)

/-- Behind an input that ends with a token or a call, pairing and reading start anew, with as many
openings pending as the pairing left. -/
theorem NodesPaired.append (paired : NodesPaired pending input nodes) (built : EndsBuilt nodes)
    (ends : Meets pending input count []) (others : NodesPaired count later more) :
    NodesPaired pending (input ++ later) (nodes ++ more) := by
  induction paired with
  | nil pending =>
    obtain ⟨-, rfl⟩ := ends.eq_nil
    exact others
  | call opens room inside after ih =>
    have called := (Meets.step (pairingStep?_opening opens room)).trans inside.meets
    exact .call (opening?_append opens later) room (inside.append later)
      (ih built.tail (called.goesOn ends))
  | unclosed opens room after ih =>
    rw [List.append_assoc, ← take_append_of_opening? opens later]
    exact .unclosed (opening?_append opens later) room
      (ih built.behind ((Meets.step (pairingStep?_opening opens room)).goesOn ends))
  | tooDeep opens deep after ih =>
    rw [List.append_assoc, ← take_append_of_opening? opens later]
    exact .tooDeep (opening?_append opens later) deep
      (ih built.behind ((Meets.step (pairingStep?_tooDeep opens deep)).goesOn ends))
  | reference refers after ih =>
    exact .reference (reference?_append refers later)
      (ih built.tail ((Meets.step (pairingStep?_reference _ refers)).goesOn ends))
  | @literal pending first rest nodes unopened unreferred unclosed after ih =>
    have goesOn : rest ≠ [] := by
      rintro rfl
      exact built.ne_nil rfl after.eq_nil
    have last := List.getLast?_eq_some_getLast goesOn
    have closed : ∃ lexeme ∈ rest, lexeme.kind = .braceClose :=
      ⟨_, List.mem_of_getLast? last, after.endsClosed built.tail _ last⟩
    exact .literal (opening?_none_append closed unopened later)
      (reference?_none_append closed unreferred later)
      (unclosed.imp_left fun unclosed => closing?_none_append goesOn unclosed later)
      (ih built.tail ((Meets.step (pairingStep?_single unopened unreferred unclosed)).goesOn ends))

/-! ## Nodes -/

theorem mergeLiterals_append {before : List Node} (built : EndsBuilt before) (after : List Node) :
    mergeLiterals (before ++ after) = mergeLiterals before ++ mergeLiterals after := by
  fun_induction mergeLiterals before with
  | case1 span text nextSpan nextText rest ih =>
    have joined : EndsBuilt (.literal (span.through nextSpan) (text ++ nextText) :: rest) :=
      built.tail.tail.cons (built.tail.ne_nil rfl)
    rw [List.cons_append, List.cons_append, mergeLiterals.eq_1, ← List.cons_append, ih joined]
  | case2 node rest unmerged ih =>
    rw [List.cons_append, mergeLiterals_cons, ih built.tail, List.cons_append]
    intro literal next head
    rw [List.head?_append_of_ne_nil _ (built.ne_nil literal)] at head
    exact apart_of_unmerged unmerged literal next head
  | case3 => rfl

theorem getLast?_mergeLiterals (nodes : List Node) :
    (mergeLiterals nodes).getLast?.map Node.isLiteral = nodes.getLast?.map Node.isLiteral := by
  fun_induction mergeLiterals nodes with
  | case1 span text nextSpan nextText rest ih =>
    rw [ih]
    cases rest <;> rfl
  | case2 node rest unmerged ih =>
    rw [List.getLast?_cons, List.getLast?_cons]
    cases before : rest.getLast? with
    | none => simp [List.getLast?_eq_none_iff.mp before, mergeLiterals]
    | some last =>
      rw [before] at ih
      obtain ⟨joined, ends, same⟩ := Option.map_eq_some_iff.mp ih
      simpa [ends] using same
  | case3 => rfl

theorem EndsBuilt.of_mergeLiterals (built : EndsBuilt (mergeLiterals nodes)) : EndsBuilt nodes := by
  intro node last
  have same := getLast?_mergeLiterals nodes
  rw [Option.mem_def.mp last] at same
  obtain ⟨joined, ends, same⟩ := Option.map_eq_some_iff.mp same
  rw [← same]
  exact built joined ends

/-- The nodes of a finished pattern stay as they are, and behind them come those of what is
appended. -/
theorem parse_append (first second : String) (finished : Meets 0 (lexemes first) 0 [])
    (built : EndsBuilt (parse first)) :
    parse (first ++ second) =
      parse first ++ shiftNodes (Text.byteLength first.toList) (parse second) := by
  obtain ⟨nodes, paired, same⟩ := exists_parse_eq first
  obtain ⟨more, others, sameOthers⟩ := exists_parse_eq second
  rw [same] at built
  have built := built.of_mergeLiterals
  have lexed : lexemes (first ++ second) = lexemes first ++ (lexemes second).map
      (Lexeme.shift (Text.byteLength first.toList)) := by
    rw [lexemes, String.toList_append, lexemesFrom_append 0 _ _ (paired.endsClosed built), lexemes,
      lexemes, ← lexemesFrom_shift]
  have whole := paired.append built finished (others.shift (Text.byteLength first.toList))
  rw [← lexed] at whole
  rw [whole.parse, same, sameOthers, mergeLiterals_append built, shiftNodes_mergeLiterals]

/-- A closing brace and a call behind a token. -/
theorem parse_append_token :
    Meets 0 (lexemes "\x7bid\x7d") 0 [] ∧ EndsBuilt (parse "\x7bid\x7d") ∧
      parse ("\x7bid\x7d" ++ "\x7d\x7b\x7b#len:a\x7d\x7d") =
        parse "\x7bid\x7d" ++ shiftNodes 4 (parse "\x7d\x7b\x7b#len:a\x7d\x7d") := by
  have lexed : lexemes "\x7bid\x7d" =
      [⟨.braceOpen, ⟨0, 1⟩⟩, ⟨.text "id", ⟨1, 3⟩⟩, ⟨.braceClose, ⟨3, 4⟩⟩] := by decide +kernel
  have finished : Meets 0 (lexemes "\x7bid\x7d") 0 [] := by
    rw [lexed]
    exact .step rfl
  have built : EndsBuilt (parse "\x7bid\x7d") := by
    have paired : NodesPaired 0 (lexemes "\x7bid\x7d") [.token ⟨0, 4⟩ "id"] := by
      rw [lexed]
      exact .reference rfl (.nil 0)
    rw [paired.parse, mergeLiterals_cons (by simp), mergeLiterals]
    rintro node ⟨⟩
    rfl
  exact ⟨finished, built, parse_append _ _ finished built⟩

end CreatureNaming.Pattern
