import CreatureNaming.Pattern.Grammar

/-! The equations of reading a pattern.

What stands at the start of an input decides how it is read. Openings, references and closings
exclude each other, so each of them gives one equation, and all other lexemes share one. The
functions here forget that a rest is shorter than its input; that fact is a lemma.
-/

set_option autoImplicit false

namespace CreatureNaming.Pattern

variable {input rest : List Lexeme} {found : Opening} {name : String} {span : Span}
  {first : Lexeme} {done : List Node} {node : Node}

/-! ## The start of an input -/

theorem opening?_of_ne (rest : List Lexeme) (other : first.kind ≠ .braceOpen) :
    opening? (first :: rest) = none := by
  obtain ⟨kind, span⟩ := first
  cases kind <;> simp_all [opening?]

theorem reference?_of_ne (rest : List Lexeme) (other : first.kind ≠ .braceOpen) :
    reference? (first :: rest) = none := by
  obtain ⟨kind, span⟩ := first
  cases kind <;> simp_all [reference?]

theorem closing?_of_ne (rest : List Lexeme) (other : first.kind ≠ .braceClose) :
    closing? (first :: rest) = none := by
  obtain ⟨kind, span⟩ := first
  cases kind <;> simp_all [closing?]

theorem opening?_shape (opens : opening? input = some (found, rest)) :
    ∃ (name : String) (first second hash nameSpan colon : Span),
      isIdentifier (Text.trim name) = true ∧ found = ⟨Text.trim name, first.start, nameSpan⟩ ∧
      input = ⟨.braceOpen, first⟩ :: ⟨.braceOpen, second⟩ :: ⟨.hash, hash⟩ ::
        ⟨.text name, nameSpan⟩ :: ⟨.colon, colon⟩ :: rest := by
  unfold opening? at opens
  split at opens
  · split at opens
    · next identifier =>
      simp only [Option.some.injEq, Prod.mk.injEq] at opens
      obtain ⟨rfl, rfl⟩ := opens
      exact ⟨_, _, _, _, _, _, identifier, rfl, rfl⟩
    · cases opens
  · cases opens

theorem reference?_shape (refers : reference? input = some (name, span, rest)) :
    ∃ first middle last : Span, isIdentifier name = true ∧ span = first.through last ∧
      input = ⟨.braceOpen, first⟩ :: ⟨.text name, middle⟩ :: ⟨.braceClose, last⟩ :: rest := by
  unfold reference? at refers
  split at refers
  · split at refers
    · next identifier =>
      simp only [Option.some.injEq, Prod.mk.injEq] at refers
      obtain ⟨rfl, rfl, rfl⟩ := refers
      exact ⟨_, _, _, identifier, rfl, rfl⟩
    · cases refers
  · cases refers

theorem closing?_shape (closes : closing? input = some (span, rest)) :
    ∃ first last : Span, span = first.through last ∧
      input = ⟨.braceClose, first⟩ :: ⟨.braceClose, last⟩ :: rest := by
  unfold closing? at closes
  split at closes
  · simp only [Option.some.injEq, Prod.mk.injEq] at closes
    obtain ⟨rfl, rfl⟩ := closes
    exact ⟨_, _, rfl, rfl⟩
  · cases closes

theorem opening?_take (opens : opening? input = some (found, rest)) (tail : List Lexeme) :
    opening? (input.take 5 ++ tail) = some (found, tail) := by
  obtain ⟨_, _, _, _, _, _, identifier, rfl, rfl⟩ := opening?_shape opens
  simp [opening?, identifier]

theorem reference?_take (refers : reference? input = some (name, span, rest))
    (tail : List Lexeme) : reference? (input.take 3 ++ tail) = some (name, span, tail) := by
  obtain ⟨_, _, _, identifier, rfl, rfl⟩ := reference?_shape refers
  simp [reference?, identifier]

theorem closing?_take (closes : closing? input = some (span, rest)) (tail : List Lexeme) :
    closing? (input.take 2 ++ tail) = some (span, tail) := by
  obtain ⟨_, _, rfl, rfl⟩ := closing?_shape closes
  rfl

theorem opening?_of_reference? (refers : reference? input = some (name, span, rest)) :
    opening? input = none := by
  obtain ⟨_, _, _, -, -, rfl⟩ := reference?_shape refers
  rfl

theorem opening?_of_closing? (closes : closing? input = some (span, rest)) :
    opening? input = none := by
  obtain ⟨_, _, -, rfl⟩ := closing?_shape closes
  rfl

theorem reference?_of_closing? (closes : closing? input = some (span, rest)) :
    reference? input = none := by
  obtain ⟨_, _, -, rfl⟩ := closing?_shape closes
  rfl

/-! ## Calls -/

/-- Read a call, with what follows it. -/
def readCall? (input : List Lexeme) : Option (Node × List Lexeme) :=
  (call? input).map fun (node, rest) => (node, rest.val)

/-- Read the arguments of a call and the end of its closing, with what follows it. -/
def readArguments? (done : List Node) (input : List Lexeme) :
    Option (List (List Node) × Nat × List Lexeme) :=
  (argumentsFrom done input).map fun (arguments, stop, rest) => (arguments, stop, rest.val)

theorem readCall?_eq_none_iff : readCall? input = none ↔ call? input = none := by
  simp [readCall?]

theorem readCall?_none (unopened : opening? input = none) : readCall? input = none := by
  unfold readCall? call?
  split
  · rfl
  · simp_all

theorem readCall?_opening (opens : opening? input = some (found, rest)) :
    readCall? input = (readArguments? [] rest).map fun (arguments, stop, rest) =>
      (.call ⟨found.start, stop⟩ found.nameSpan found.name arguments, rest) := by
  unfold readCall? readArguments? call?
  split
  · simp_all
  · next same =>
    rw [opens] at same
    obtain ⟨rfl, rfl⟩ := same
    split <;> simp_all

theorem readCall?_of_reference? (refers : reference? input = some (name, span, rest)) :
    readCall? input = none :=
  readCall?_none (opening?_of_reference? refers)

theorem opening?_of_readCall? (called : readCall? input = some (node, rest)) :
    ∃ found body, opening? input = some (found, body) := by
  cases opens : opening? input with
  | none =>
    rw [readCall?_none opens] at called
    cases called
  | some opening => exact ⟨opening.1, opening.2, rfl⟩

/-! ## Arguments -/

theorem readArguments?_length {arguments : List (List Node)} {stop : Nat}
    (read : readArguments? done input = some (arguments, stop, rest)) :
    rest.length < input.length := by
  simp only [readArguments?, Option.map_eq_some_iff] at read
  obtain ⟨⟨_, _, remaining⟩, -, same⟩ := read
  simp only [Prod.mk.injEq] at same
  obtain ⟨-, -, rfl⟩ := same
  exact remaining.property

theorem readArguments?_nil (done : List Node) : readArguments? done [] = none := by
  unfold readArguments? argumentsFrom
  rfl

theorem readArguments?_closing (done : List Node)
    (closes : closing? input = some (span, rest)) :
    readArguments? done input = some ([argument done.reverse], span.stop, rest) := by
  unfold readArguments? argumentsFrom
  split
  · next same =>
    rw [closes] at same
    obtain ⟨rfl, rfl⟩ := same
    rfl
  · simp_all

theorem readArguments?_pipe (done : List Node) (rest : List Lexeme)
    (separates : first.kind = .pipe) :
    readArguments? done (first :: rest) =
      (readArguments? [] rest).map fun (arguments, stop, rest) =>
        (argument done.reverse :: arguments, stop, rest) := by
  have unclosed : closing? (first :: rest) = none := closing?_of_ne rest (by simp [separates])
  unfold readArguments?
  rw [argumentsFrom]
  split
  · simp_all
  · simp only [separates, if_true]
    split <;> simp_all

theorem readArguments?_call (done : List Node)
    (called : readCall? input = some (node, rest)) :
    readArguments? done input = readArguments? (node :: done) rest := by
  obtain ⟨found, body, opens⟩ := opening?_of_readCall? called
  obtain ⟨_, _, _, _, _, _, -, -, rfl⟩ := opening?_shape opens
  simp only [readCall?, Option.map_eq_some_iff] at called
  obtain ⟨⟨_, remaining, shorter⟩, called, same⟩ := called
  obtain ⟨rfl, rfl⟩ := Prod.mk.inj same
  unfold readArguments?
  rw [argumentsFrom]
  -- An opening starts with an open brace, so it is no closing and no pipe.
  split
  · next closes => cases closes
  · simp only [reduceCtorEq, if_false, called]
    split <;> simp_all

theorem readArguments?_reference (done : List Node)
    (refers : reference? input = some (name, span, rest)) :
    readArguments? done input = readArguments? (.token span name :: done) rest := by
  have uncalled := readCall?_eq_none_iff.mp (readCall?_of_reference? refers)
  obtain ⟨_, _, _, -, -, rfl⟩ := reference?_shape refers
  unfold readArguments?
  rw [argumentsFrom]
  split
  · next closes => cases closes
  · simp only [reduceCtorEq, if_false, uncalled]
    split
    · next same =>
      rw [refers] at same
      obtain ⟨rfl, rfl, rfl⟩ := same
      split <;> simp_all
    · simp_all

theorem readArguments?_literal (done : List Node) (inside : first.kind ≠ .pipe)
    (unclosed : closing? (first :: rest) = none) (uncalled : readCall? (first :: rest) = none)
    (unreferred : reference? (first :: rest) = none) :
    readArguments? done (first :: rest) =
      readArguments? (.literal first.span first.literal :: done) rest := by
  rw [readCall?_eq_none_iff] at uncalled
  unfold readArguments?
  rw [argumentsFrom]
  split
  · simp_all
  · simp only [inside, if_false, uncalled]
    split
    · simp_all
    · split <;> simp_all

/-- The lexemes of an opening whose call cannot be read are text. -/
theorem readArguments?_unopened (done : List Node) (opens : opening? input = some (found, rest))
    (uncalled : readCall? input = none) :
    ∃ next, readArguments? done input = readArguments? next rest := by
  obtain ⟨_, _, _, _, _, _, -, -, rfl⟩ := opening?_shape opens
  -- No construct begins within an opening, whatever stands behind it.
  rw [readArguments?_literal done (by simp) rfl uncalled rfl,
    readArguments?_literal _ (by simp) rfl (readCall?_none rfl) rfl,
    readArguments?_literal _ (by simp) rfl (readCall?_none rfl) rfl,
    readArguments?_literal _ (by simp) rfl (readCall?_none rfl) rfl,
    readArguments?_literal _ (by simp) rfl (readCall?_none rfl) rfl]
  exact ⟨_, rfl⟩

/-! ## Nodes of a whole input -/

theorem nodesFrom_call (called : readCall? input = some (node, rest)) :
    nodesFrom input = node :: nodesFrom rest := by
  simp only [readCall?, Option.map_eq_some_iff] at called
  obtain ⟨⟨_, remaining, shorter⟩, called, same⟩ := called
  obtain ⟨rfl, rfl⟩ := Prod.mk.inj same
  rw [nodesFrom, called]

theorem nodesFrom_reference (refers : reference? input = some (name, span, rest)) :
    nodesFrom input = .token span name :: nodesFrom rest := by
  have uncalled := readCall?_eq_none_iff.mp (readCall?_of_reference? refers)
  rw [nodesFrom]
  split
  · simp_all
  · split <;> simp_all

theorem nodesFrom_literal (uncalled : readCall? (first :: rest) = none)
    (unreferred : reference? (first :: rest) = none) :
    nodesFrom (first :: rest) = .literal first.span first.literal :: nodesFrom rest := by
  rw [readCall?_eq_none_iff] at uncalled
  rw [nodesFrom]
  split
  · simp_all
  · split <;> simp_all

/-- A lexeme that is read as text. -/
def Lexeme.toNode (lexeme : Lexeme) : Node := .literal lexeme.span lexeme.literal

/-- Behind its first brace, an opening is read as text. -/
theorem nodesFrom_behindBrace (opens : opening? input = some (found, rest))
    (tail : List Lexeme) :
    nodesFrom ((input.take 5).tail ++ tail) =
      (input.take 5).tail.map Lexeme.toNode ++ nodesFrom tail := by
  obtain ⟨_, _, _, _, _, _, -, -, rfl⟩ := opening?_shape opens
  simp only [List.take_succ_cons, List.take_zero, List.tail_cons, List.cons_append,
    List.nil_append]
  rw [nodesFrom_literal (readCall?_none rfl) rfl, nodesFrom_literal (readCall?_none rfl) rfl,
    nodesFrom_literal (readCall?_none rfl) rfl, nodesFrom_literal (readCall?_none rfl) rfl]
  rfl

theorem nodesFrom_unopened (opens : opening? input = some (found, rest))
    (uncalled : readCall? input = none) :
    nodesFrom input = (input.take 5).map Lexeme.toNode ++ nodesFrom rest := by
  have behind := nodesFrom_behindBrace opens rest
  obtain ⟨_, _, _, _, _, _, -, -, rfl⟩ := opening?_shape opens
  rw [nodesFrom_literal uncalled rfl]
  exact congrArg (List.cons _) behind

theorem nodesFrom_escaped (opens : opening? input = some (found, rest)) (tail : List Lexeme) :
    nodesFrom (escapeFirst (input.take 5) ++ tail) =
      (input.take 5).map Lexeme.toNode ++ nodesFrom tail := by
  have behind := nodesFrom_behindBrace opens tail
  obtain ⟨_, _, _, _, _, _, -, -, rfl⟩ := opening?_shape opens
  simp only [List.take_succ_cons, List.take_zero, List.tail_cons, escapeFirst] at behind ⊢
  rw [List.cons_append, nodesFrom_literal (readCall?_none rfl) rfl, behind]
  rfl

end CreatureNaming.Pattern
