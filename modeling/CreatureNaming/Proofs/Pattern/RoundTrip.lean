import CreatureNaming.Proofs.Pattern.PlainGrammar
import CreatureNaming.Proofs.Pattern.Derivations
import CreatureNaming.Proofs.Pattern.Written

/-! Canonical trees are read back from their text.

The lexemes of a canonical text leave no opening without its closing, so pairing changes nothing
up to the limit of depth. Reading then takes one node at a time: whatever follows it, the node's
lexemes become the pieces of that node and of no other.
-/

set_option autoImplicit false

namespace CreatureNaming.Pattern

variable {name : String} {lexed rest : List Lexeme} {pending : Nat}

theorem opening?_written (identifier : isIdentifier name = true)
    (first second hash middle colon : Span) (rest : List Lexeme) :
    opening? (⟨.braceOpen, first⟩ :: ⟨.braceOpen, second⟩ :: ⟨.hash, hash⟩ ::
        ⟨.text name, middle⟩ :: ⟨.colon, colon⟩ :: rest) =
      some (⟨name, first.start, middle⟩, rest) := by
  simp [opening?, trim_identifier identifier, identifier]

theorem reference?_written (identifier : isIdentifier name = true) (first middle last : Span)
    (rest : List Lexeme) :
    reference? (⟨.braceOpen, first⟩ :: ⟨.text name, middle⟩ :: ⟨.braceClose, last⟩ :: rest) =
      some (name, first.through last, rest) := by
  simp [reference?, identifier]

/-! ## Depth -/

theorem staysShallow_nil (pending : Nat) : StaysShallow pending [] := by
  intro count member
  rw [pendingAtOpenings] at member
  cases member

theorem staysShallow_plain (plain : ∀ lexeme ∈ lexed, lexeme.IsPlain)
    (shallow : StaysShallow pending rest) : StaysShallow pending (lexed ++ rest) := by
  induction lexed with
  | nil => exact shallow
  | cons first others ih =>
    rw [List.forall_mem_cons] at plain
    obtain ⟨⟨noOpen, noClose, -⟩, others⟩ := plain
    rw [List.cons_append, staysShallow_single (opening?_of_ne _ noOpen)
      (reference?_of_ne _ noOpen) (.inl (closing?_of_ne _ noClose))]
    exact ih others

mutual

theorem staysShallow_node : ∀ (node : Node) (lexed rest : List Lexeme) (pending : Nat),
    node.isCanonical = true → node.Lexed lexed → node.depth + pending ≤ maxCallDepth →
    StaysShallow pending rest → StaysShallow pending (lexed ++ rest)
  | .literal _ _, _, _, _, _, ⟨plain, _⟩, _, shallow => staysShallow_plain plain shallow
  | .token _ name, _, rest, pending, canonical, ⟨first, middle, last, same⟩, _, shallow => by
    subst same
    exact (staysShallow_reference (reference?_written canonical first middle last rest)).mpr shallow
  | .call _ _ name arguments, _, rest, pending, canonical, lexed, fits, shallow => by
    obtain ⟨first, second, hash, middle, colon, inner, third, last, rfl, inside⟩ := lexed
    simp only [Node.isCanonical, Bool.and_eq_true] at canonical
    simp only [Node.depth] at fits
    have closes : closing? (⟨.braceClose, third⟩ :: ⟨.braceClose, last⟩ :: rest) =
        some (third.through last, rest) := rfl
    simp only [List.cons_append, List.append_assoc, List.nil_append]
    rw [staysShallow_opening (opening?_written canonical.1.1 first second hash middle colon _)]
    refine ⟨by omega, ?_⟩
    -- Inside one more opening is pending, which the closing takes away again.
    exact staysShallow_arguments arguments inner _ (pending + 1) canonical.2 inside (by omega)
      ((staysShallow_closing closes).mpr shallow)

theorem staysShallow_arguments : ∀ (arguments : List (List Node)) (lexed rest : List Lexeme)
    (pending : Nat), areCanonicalArguments arguments = true → ArgumentsLexed arguments lexed →
    argumentsDepth arguments + pending ≤ maxCallDepth →
    StaysShallow pending rest → StaysShallow pending (lexed ++ rest)
  | [], _, _, _, _, same, _, shallow => by
    obtain rfl := same
    exact shallow
  | [nodes], lexed, rest, pending, canonical, inside, fits, shallow => by
    obtain ⟨-, -, only, -⟩ := areCanonicalArguments_cons canonical
    simp only [argumentsDepth] at fits
    exact staysShallow_nodes nodes lexed rest pending only inside (by omega) shallow
  | nodes :: next :: others, lexed, rest, pending, canonical, inside, fits, shallow => by
    obtain ⟨first, span, more, rfl, nodesLexed, moreLexed⟩ := inside
    obtain ⟨-, -, firstCanonical, othersCanonical⟩ := areCanonicalArguments_cons canonical
    rw [argumentsDepth] at fits
    rw [List.append_assoc, List.cons_append]
    refine staysShallow_nodes nodes first _ pending firstCanonical nodesLexed (by omega) ?_
    rw [staysShallow_single (opening?_of_ne _ (by simp)) (reference?_of_ne _ (by simp))
      (.inl (closing?_of_ne _ (by simp)))]
    exact staysShallow_arguments (next :: others) more rest pending othersCanonical moreLexed
      (by omega) shallow

theorem staysShallow_nodes : ∀ (nodes : List Node) (lexed rest : List Lexeme) (pending : Nat),
    areCanonical nodes = true → NodesLexed nodes lexed → depth nodes + pending ≤ maxCallDepth →
    StaysShallow pending rest → StaysShallow pending (lexed ++ rest)
  | [], _, _, _, _, same, _, shallow => by
    obtain rfl := same
    exact shallow
  | node :: others, _, rest, pending, canonical, inside, fits, shallow => by
    obtain ⟨first, more, rfl, nodeLexed, moreLexed⟩ := inside
    obtain ⟨nodeCanonical, -, othersCanonical⟩ := areCanonical_cons canonical
    rw [depth] at fits
    rw [List.append_assoc]
    exact staysShallow_node node first _ pending nodeCanonical nodeLexed (by omega)
      (staysShallow_nodes others more rest pending othersCanonical moreLexed (by omega) shallow)

end

/-! ## Reading -/

/-- Whatever follows, lexemes become these pieces, in an argument as at the top of a pattern. -/
def ReadsAs (lexed : List Lexeme) (pieces : List Node) : Prop :=
  ∀ rest, (∀ done, readArguments? done (lexed ++ rest) =
      readArguments? (pieces.reverse ++ done) rest) ∧
    nodesFrom (lexed ++ rest) = pieces ++ nodesFrom rest

theorem ReadsAs.append {more : List Lexeme} {pieces others : List Node}
    (first : ReadsAs lexed pieces) (second : ReadsAs more others) :
    ReadsAs (lexed ++ more) (pieces ++ others) := by
  intro rest
  rw [List.append_assoc]
  constructor
  · intro done
    rw [(first _).1, (second _).1, List.reverse_append, List.append_assoc]
  · rw [(first _).2, (second _).2, List.append_assoc]

theorem readsAs_plain (plain : ∀ lexeme ∈ lexed, lexeme.IsPlain) :
    ReadsAs lexed (lexed.map Lexeme.toNode) := by
  induction lexed with
  | nil => exact fun rest => ⟨fun _ => rfl, rfl⟩
  | cons first others ih =>
    rw [List.forall_mem_cons] at plain
    obtain ⟨⟨noOpen, noClose, noPipe⟩, others⟩ := plain
    have single : ReadsAs [first] [first.toNode] := by
      intro rest
      have uncalled : readCall? (first :: rest) = none :=
        readCall?_none (opening?_of_ne rest noOpen)
      constructor
      · intro done
        exact readArguments?_literal done noPipe (closing?_of_ne rest noClose) uncalled
          (reference?_of_ne rest noOpen)
      · exact nodesFrom_literal uncalled (reference?_of_ne rest noOpen)
    exact single.append (ih others)

/-- The pieces of a node merge into it, wherever they stand, unless they are text before more
text. -/
def MergesTo (pieces : List Node) (node : Node) : Prop :=
  ∀ rest : List Node, (node.isLiteral = true → ∀ next ∈ rest.head?, next.isLiteral = false) →
    mergeLiterals (unplaced pieces ++ rest) = node.unplaced :: mergeLiterals rest

theorem mergesTo_single {node piece : Node} (same : piece.unplaced = node.unplaced) :
    MergesTo [piece] node := by
  intro rest apart
  rw [unplaced, unplaced, same]
  exact mergeLiterals_cons (by rwa [Node.isLiteral_unplaced])

theorem mergesTo_literal {first : Lexeme} (others : List Lexeme) (span : Span) :
    MergesTo ((first :: others).map Lexeme.toNode) (.literal span (textOf (first :: others))) := by
  intro rest apart
  -- Merging collects the text in the first literal, so that literal has any text.
  have collect (text : String) :
      mergeLiterals (.literal ⟨0, 0⟩ text :: unplaced (others.map Lexeme.toNode) ++ rest) =
        .literal ⟨0, 0⟩ (text ++ textOf others) :: mergeLiterals rest := by
    induction others generalizing text with
    | nil =>
      rw [textOf, String.append_empty]
      exact mergeLiterals_cons apart
    | cons second others ih =>
      rw [List.map_cons, unplaced, Lexeme.toNode, Node.unplaced, textOf, ← String.append_assoc]
      simp only [List.cons_append]
      rw [mergeLiterals.eq_1]
      exact ih (fun _ => apart rfl) _
  exact collect first.literal

mutual

theorem readsAs_node : ∀ (node : Node) (lexed : List Lexeme), node.isCanonical = true →
    node.Lexed lexed → ∃ pieces, ReadsAs lexed pieces ∧ MergesTo pieces node
  | .literal span text, lexed, canonical, ⟨plain, whole⟩ => by
    subst whole
    cases lexed with
    | nil => simp [Node.isCanonical, textOf] at canonical
    | cons first others => exact ⟨_, readsAs_plain plain, mergesTo_literal others span⟩
  | .token _ name, _, canonical, ⟨first, middle, last, same⟩ => by
    subst same
    refine ⟨[.token (first.through last) name], fun rest => ?_, mergesTo_single rfl⟩
    have refers := reference?_written canonical first middle last rest
    exact ⟨fun done => readArguments?_reference done refers, nodesFrom_reference refers⟩
  | .call span nameSpan name arguments, _, canonical, lexed => by
    obtain ⟨first, second, hash, middle, colon, inner, third, last, rfl, inside⟩ := lexed
    simp only [Node.isCanonical, Bool.and_eq_true] at canonical
    obtain ⟨read, same, reads⟩ := readArguments?_written arguments inner canonical.2
      (by simpa using canonical.1.2) inside third last
    -- The closing ends the arguments before anything is seen of what follows.
    refine ⟨[.call ⟨first.start, last.stop⟩ middle name read], fun rest => ?_, mergesTo_single ?_⟩
    · have called : readCall? (⟨.braceOpen, first⟩ :: ⟨.braceOpen, second⟩ :: ⟨.hash, hash⟩ ::
          ⟨.text name, middle⟩ :: ⟨.colon, colon⟩ ::
            (inner ++ [⟨.braceClose, third⟩, ⟨.braceClose, last⟩]) ++ rest) =
          some (.call ⟨first.start, last.stop⟩ middle name read, rest) := by
        simp only [List.cons_append, List.append_assoc, List.nil_append]
        rw [readCall?_opening (opening?_written canonical.1.1 first second hash middle colon _),
          reads rest]
        rfl
      exact ⟨fun done => readArguments?_call done called, nodesFrom_call called⟩
    · rw [Node.unplaced, Node.unplaced, same]

theorem readArguments?_written : ∀ (arguments : List (List Node)) (lexed : List Lexeme),
    areCanonicalArguments arguments = true → arguments ≠ [] → ArgumentsLexed arguments lexed →
    ∀ third last : Span, ∃ read, unplacedArguments read = unplacedArguments arguments ∧
      ∀ rest, readArguments? [] (lexed ++ ⟨.braceClose, third⟩ :: ⟨.braceClose, last⟩ :: rest) =
        some (read, last.stop, rest)
  | [], _, _, nonempty, _, _, _ => absurd rfl nonempty
  | [nodes], lexed, canonical, _, inside, third, last => by
    obtain ⟨starts, ends, only, -⟩ := areCanonicalArguments_cons canonical
    obtain ⟨pieces, reads, merges⟩ := readsAs_nodes nodes lexed only inside
    refine ⟨[argument pieces], ?_, fun rest => ?_⟩
    · simp only [unplacedArguments, unplaced_argument only starts ends merges]
    · rw [(reads _).1, readArguments?_closing _ rfl, List.append_nil, List.reverse_reverse]
      rfl
  | nodes :: next :: others, _, canonical, _, inside, third, last => by
    obtain ⟨first, span, more, rfl, nodesLexed, moreLexed⟩ := inside
    obtain ⟨starts, ends, firstCanonical, othersCanonical⟩ := areCanonicalArguments_cons canonical
    obtain ⟨pieces, reads, merges⟩ := readsAs_nodes nodes first firstCanonical nodesLexed
    obtain ⟨read, same, readsMore⟩ := readArguments?_written (next :: others) more
      othersCanonical (List.cons_ne_nil _ _) moreLexed third last
    refine ⟨argument pieces :: read, ?_, fun rest => ?_⟩
    · rw [unplacedArguments, unplacedArguments, same,
        unplaced_argument firstCanonical starts ends merges]
    · rw [List.append_assoc, (reads _).1, List.cons_append, readArguments?_pipe _ _ rfl, readsMore,
        List.append_nil, List.reverse_reverse]
      rfl

theorem readsAs_nodes : ∀ (nodes : List Node) (lexed : List Lexeme), areCanonical nodes = true →
    NodesLexed nodes lexed →
    ∃ pieces, ReadsAs lexed pieces ∧ mergeLiterals (unplaced pieces) = unplaced nodes
  | [], _, _, same => by
    obtain rfl := same
    exact ⟨[], fun rest => ⟨fun _ => rfl, rfl⟩, by simp [unplaced, mergeLiterals]⟩
  | node :: others, _, canonical, inside => by
    obtain ⟨first, more, rfl, nodeLexed, moreLexed⟩ := inside
    obtain ⟨nodeCanonical, apart, othersCanonical⟩ := areCanonical_cons canonical
    obtain ⟨pieces, reads, mergesNode⟩ := readsAs_node node first nodeCanonical nodeLexed
    obtain ⟨morePieces, readsMore, merges⟩ := readsAs_nodes others more othersCanonical moreLexed
    refine ⟨pieces ++ morePieces, reads.append readsMore, ?_⟩
    rw [unplaced_append, mergesNode, merges, unplaced]
    -- The pieces that follow begin with a literal only if the next node is one.
    intro literal piece head
    have heads := head?_mergeLiterals (unplaced morePieces)
    rw [merges, unplaced_eq_map others, List.head?_map, Option.map_map,
      Option.mem_def.mp head] at heads
    obtain ⟨next, starts, same⟩ := Option.map_eq_some_iff.mp heads
    rw [← same, Function.comp, Node.isLiteral_unplaced]
    exact apart literal next starts

end

/-- A canonical tree whose calls do not nest too deep is read back from its text. -/
theorem parse_written (nodes : List Node) (canonical : areCanonical nodes = true)
    (fits : depth nodes ≤ maxCallDepth) :
    unplaced (parse (.ofList (written nodes))) = unplaced nodes := by
  obtain ⟨lexed, stop, same, inside⟩ := lexemesFrom_nodes nodes [] 0 canonical nofun
  have whole : lexemes (.ofList (written nodes)) = lexed := by
    rw [lexemes, String.toList_ofList, ← List.append_nil (written nodes), same, lexemesFrom,
      List.append_nil]
  -- No opening stands too deep, so the lexemes can be read as they are.
  have shallow : StaysShallow 0 lexed := by
    have := staysShallow_nodes nodes lexed [] 0 canonical inside fits (staysShallow_nil 0)
    rwa [List.append_nil] at this
  obtain ⟨pieces, reads, merges⟩ := readsAs_nodes nodes lexed canonical inside
  have read : nodesFrom lexed = pieces := by
    have := (reads []).2
    rwa [List.append_nil, nodesFrom_nil, List.append_nil] at this
  rw [parse, whole, pairCalls, grammar,
    nodesFrom_pairFrom 0 lexed shallow (Nat.le_zero.mp (pairFrom_closed_le 0 _)), read,
    unplaced_mergeLiterals, merges]

/-- Closing braces behind a token, an escaped brace behind a call, and an empty argument. -/
theorem parse_written_closings :
    let nodes : List Node :=
      [.call ⟨0, 0⟩ ⟨0, 0⟩ "if" [[.call ⟨0, 0⟩ ⟨0, 0⟩ "len" [[.token ⟨0, 0⟩ "hp"]]], [],
        [.literal ⟨0, 0⟩ "a |"]], .literal ⟨0, 0⟩ "\x7d"]
    String.ofList (written nodes) =
        "\x7b\x7b#if:\x7b\x7b#len:\x7bhp\x7d\x7d\x7d||a \\|\x7d\x7d\\\x7d" ∧
      areCanonical nodes = true ∧ depth nodes ≤ maxCallDepth ∧
      unplaced (parse (.ofList (written nodes))) = unplaced nodes := by
  intro nodes
  have canonical : areCanonical nodes = true := by decide
  have fits : depth nodes ≤ maxCallDepth := by decide
  exact ⟨by decide, canonical, fits, parse_written nodes canonical fits⟩

end CreatureNaming.Pattern
