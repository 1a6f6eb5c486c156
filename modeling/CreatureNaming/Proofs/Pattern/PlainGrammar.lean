import CreatureNaming.Proofs.Pattern.Pairing

/-! Pairing keeps the tree of a pattern.

The pending openings of the pairing are the calls whose arguments are being read. An opening is
closed by the pairing exactly if reading its call succeeds, and then both go on behind the same
closing; this is carried through an input by `readsAlike`. An opening without a closing is text
for both, because its call comes to the end of the input. So the tree of a pattern is that of its
lexemes as they are, unless the limit of depth interferes.
-/

set_option autoImplicit false

namespace CreatureNaming.Pattern

variable {pending : Nat} {input rest : List Lexeme} {found : Opening} {name : String}
  {span : Span} {first : Lexeme} {done : List Node}

/-- The arguments of the innermost pending call are the same with and without pairing. What
follows them is paired with one opening less. -/
def ReadsAlike (pending : Nat) (done : List Node) (input : List Lexeme) : Prop :=
  ∃ arguments stop rest,
    readArguments? done input = some (arguments, stop, rest) ∧
    readArguments? done (pairFrom (pending + 1) input).1 =
      some (arguments, stop, (pairFrom pending rest).1) ∧
    (pairFrom (pending + 1) input).2 = (pairFrom pending rest).2 + 1 ∧
    StaysShallow pending rest

theorem ReadsAlike.call (alike : ReadsAlike pending [] rest)
    (opens : opening? input = some (found, rest)) (shallow : pending < maxCallDepth) :
    ∃ node behind, behind.length < rest.length ∧ readCall? input = some (node, behind) ∧
      readCall? (pairFrom pending input).1 = some (node, (pairFrom pending behind).1) ∧
      (pairFrom pending input).2 = (pairFrom pending behind).2 ∧ StaysShallow pending behind := by
  obtain ⟨arguments, stop, behind, plain, paired, closed, behindShallow⟩ := alike
  refine ⟨.call ⟨found.start, stop⟩ found.nameSpan found.name arguments, behind,
    readArguments?_length plain, ?_, ?_, ?_, behindShallow⟩
  · rw [readCall?_opening opens, plain]
    rfl
  · rw [pairFrom_opening opens shallow, if_neg (by omega),
      readCall?_opening (opening?_take opens _), paired]
    rfl
  · rw [pairFrom_opening opens shallow, if_neg (by omega), closed]
    rfl

/-- One step of reading, taken both with and without pairing. -/
theorem ReadsAlike.step {next : List Node} {later : List Lexeme}
    (plain : readArguments? done input = readArguments? next later)
    (paired : readArguments? done (pairFrom (pending + 1) input).1 =
      readArguments? next (pairFrom (pending + 1) later).1)
    (closed : (pairFrom (pending + 1) input).2 = (pairFrom (pending + 1) later).2)
    (alike : ReadsAlike pending next later) : ReadsAlike pending done input := by
  unfold ReadsAlike
  rw [plain, paired, closed]
  exact alike

theorem ReadsAlike.closing (closes : closing? input = some (span, rest))
    (shallow : StaysShallow pending rest) : ReadsAlike pending done input := by
  refine ⟨_, _, rest, readArguments?_closing done closes, ?_, ?_, shallow⟩
  · rw [pairFrom_closing pending closes]
    exact readArguments?_closing done (closing?_take closes _)
  · rw [pairFrom_closing pending closes]

theorem ReadsAlike.pipe (separates : first.kind = .pipe) (alike : ReadsAlike pending [] rest) :
    ReadsAlike pending done (first :: rest) := by
  obtain ⟨arguments, stop, behind, plain, paired, closed, shallow⟩ := alike
  have single : pairFrom (pending + 1) (first :: rest) =
      (first :: (pairFrom (pending + 1) rest).1, (pairFrom (pending + 1) rest).2) :=
    pairFrom_single (opening?_of_ne rest (by simp [separates]))
      (reference?_of_ne rest (by simp [separates]))
      (.inl (closing?_of_ne rest (by simp [separates])))
  refine ⟨argument done.reverse :: arguments, stop, behind, ?_, ?_, ?_, shallow⟩
  · rw [readArguments?_pipe done rest separates, plain]
    rfl
  · rw [single, readArguments?_pipe done _ separates, paired]
    rfl
  · rw [single, closed]

theorem ReadsAlike.literal (inside : first.kind ≠ .pipe)
    (unopened : opening? (first :: rest) = none) (unreferred : reference? (first :: rest) = none)
    (unclosed : closing? (first :: rest) = none)
    (alike : ReadsAlike pending (.literal first.span first.literal :: done) rest) :
    ReadsAlike pending done (first :: rest) := by
  have single : pairFrom (pending + 1) (first :: rest) =
      (first :: (pairFrom (pending + 1) rest).1, (pairFrom (pending + 1) rest).2) :=
    pairFrom_single unopened unreferred (.inl unclosed)
  have demotes := pairFrom_demotes (pending + 1) (first :: rest)
  rw [single] at demotes
  refine .step ?_ ?_ ?_ alike
  · exact readArguments?_literal done inside unclosed (readCall?_none unopened) unreferred
  · rw [single]
    exact readArguments?_literal done inside (closing?_none_of_demotes demotes unclosed)
      (readCall?_none (opening?_none_of_demotes demotes unopened))
      (reference?_none_of_demotes demotes unreferred)
  · rw [single]

/-- An opening that the pairing closes is the opening of a call. -/
theorem readsAlike (pending : Nat) (done : List Node) (input : List Lexeme)
    (shallow : StaysShallow (pending + 1) input) (closed : (pairFrom (pending + 1) input).2 ≠ 0) :
    ReadsAlike pending done input := by
  -- The call being read is the innermost pending one, so the count is never zero here.
  induction counted : pending + 1, input using pairing_induction generalizing pending done with
  | nothing count => simp [pairFrom_nil] at closed
  | opening count input found rest opens ih =>
    subst counted
    obtain ⟨room, bodyShallow⟩ := (staysShallow_opening opens).mp shallow
    -- Closings go to the innermost opening first: were this one not closed, no other would be.
    have bodyClosed : (pairFrom (pending + 1 + 1) rest).2 ≠ 0 := by
      intro unclosed
      rw [pairFrom_opening opens room, if_pos unclosed] at closed
      exact closed rfl
    have body := ih _ rest (Nat.le_refl _) (pending + 1) [] bodyShallow bodyClosed rfl
    obtain ⟨node, behind, shorter, plain, paired, same, behindShallow⟩ := body.call opens room
    exact .step (readArguments?_call done plain) (readArguments?_call done paired) same
      (ih _ behind (Nat.le_of_lt shorter) pending _ behindShallow (same ▸ closed) rfl)
  | reference count input name span rest refers ih =>
    subst counted
    have paired := pairFrom_reference (pending + 1) refers
    refine .step (readArguments?_reference done refers) ?_ ?_
      (ih _ rest (Nat.le_refl _) pending _ ((staysShallow_reference refers).mp shallow) ?_ rfl)
    · rw [paired]
      exact readArguments?_reference done (reference?_take refers _)
    · rw [paired]
    · rwa [paired] at closed
  | closing outer input span rest closes ih =>
    cases counted
    exact .closing closes ((staysShallow_closing closes).mp shallow)
  | single count first rest unopened unreferred unclosed ih =>
    subst counted
    have restShallow := (staysShallow_single unopened unreferred unclosed).mp shallow
    rw [pairFrom_single unopened unreferred unclosed] at closed
    have alike (done : List Node) : ReadsAlike pending done rest :=
      ih _ rest (Nat.le_refl _) pending done restShallow closed rfl
    by_cases separates : first.kind = .pipe
    · exact .pipe separates (alike [])
    · exact .literal separates unopened unreferred (unclosed.resolve_right (by simp)) (alike _)

/-- Without a closing for the innermost pending call, reading its arguments comes to the end of
the input. -/
theorem readArguments?_unclosed (pending : Nat) (done : List Node) (input : List Lexeme)
    (shallow : StaysShallow (pending + 1) input) (unclosed : (pairFrom (pending + 1) input).2 = 0) :
    readArguments? done input = none := by
  induction counted : pending + 1, input using pairing_induction generalizing pending done with
  | nothing count => exact readArguments?_nil done
  | opening count input found rest opens ih =>
    subst counted
    obtain ⟨room, bodyShallow⟩ := (staysShallow_opening opens).mp shallow
    have bodyRead := ih (pending + 1 + 1) rest (Nat.le_refl _) (pending + 1)
    by_cases bodyUnclosed : (pairFrom (pending + 1 + 1) rest).2 = 0
    · -- The opening is text, and its body belongs to the arguments of the outer call.
      have uncalled : readCall? input = none := by
        rw [readCall?_opening opens, bodyRead [] bodyShallow bodyUnclosed rfl]
        rfl
      obtain ⟨next, same⟩ := readArguments?_unopened done opens uncalled
      rw [same, bodyRead next bodyShallow bodyUnclosed rfl]
    · have body := readsAlike (pending + 1) [] rest bodyShallow bodyUnclosed
      obtain ⟨node, behind, shorter, plain, -, same, behindShallow⟩ := body.call opens room
      rw [readArguments?_call done plain]
      exact ih _ behind (Nat.le_of_lt shorter) pending _ behindShallow (same ▸ unclosed) rfl
  | reference count input name span rest refers ih =>
    subst counted
    rw [pairFrom_reference (pending + 1) refers] at unclosed
    rw [readArguments?_reference done refers]
    exact ih _ rest (Nat.le_refl _) pending _ ((staysShallow_reference refers).mp shallow)
      unclosed rfl
  | closing outer input span rest closes ih =>
    rw [pairFrom_closing pending closes] at unclosed
    cases unclosed
  | single count first rest unopened unreferred unclosedHere ih =>
    subst counted
    have restShallow := (staysShallow_single unopened unreferred unclosedHere).mp shallow
    rw [pairFrom_single unopened unreferred unclosedHere] at unclosed
    have ends (done : List Node) : readArguments? done rest = none :=
      ih _ rest (Nat.le_refl _) pending done restShallow unclosed rfl
    by_cases separates : first.kind = .pipe
    · rw [readArguments?_pipe done rest separates, ends]
      rfl
    · rw [readArguments?_literal done separates (unclosedHere.resolve_right (by simp))
        (readCall?_none unopened) unreferred, ends]

/-- Behind openings none of which closes, pairing changes no node. -/
theorem nodesFrom_pairFrom (pending : Nat) (input : List Lexeme)
    (shallow : StaysShallow pending input) (unclosed : (pairFrom pending input).2 = 0) :
    nodesFrom (pairFrom pending input).1 = nodesFrom input := by
  induction pending, input using pairing_induction with
  | nothing pending => rw [pairFrom_nil]
  | opening pending input found rest opens ih =>
    obtain ⟨room, bodyShallow⟩ := (staysShallow_opening opens).mp shallow
    by_cases bodyUnclosed : (pairFrom (pending + 1) rest).2 = 0
    · have uncalled : readCall? input = none := by
        rw [readCall?_opening opens,
          readArguments?_unclosed pending [] rest bodyShallow bodyUnclosed]
        rfl
      rw [pairFrom_opening opens room, if_pos bodyUnclosed, nodesFrom_unopened opens uncalled,
        nodesFrom_escaped opens, ih _ rest (Nat.le_refl _) bodyShallow bodyUnclosed]
    · have body := readsAlike pending [] rest bodyShallow bodyUnclosed
      obtain ⟨node, behind, shorter, plain, paired, same, behindShallow⟩ := body.call opens room
      rw [nodesFrom_call plain, nodesFrom_call paired,
        ih _ behind (Nat.le_of_lt shorter) behindShallow (same ▸ unclosed)]
  | reference pending input name span rest refers ih =>
    rw [pairFrom_reference pending refers] at unclosed ⊢
    rw [nodesFrom_reference refers, nodesFrom_reference (reference?_take refers _),
      ih _ rest (Nat.le_refl _) ((staysShallow_reference refers).mp shallow) unclosed]
  | closing outer input span rest closes ih =>
    rw [pairFrom_closing outer closes] at unclosed
    cases unclosed
  | single pending first rest unopened unreferred unclosedHere ih =>
    -- Demoting braces further on cannot make a construct begin here.
    have demotes := pairFrom_demotes pending (first :: rest)
    rw [pairFrom_single unopened unreferred unclosedHere] at unclosed demotes ⊢
    rw [nodesFrom_literal (readCall?_none unopened) unreferred,
      nodesFrom_literal (readCall?_none (opening?_none_of_demotes demotes unopened))
        (reference?_none_of_demotes demotes unreferred),
      ih _ rest (Nat.le_refl _)
        ((staysShallow_single unopened unreferred unclosedHere).mp shallow) unclosed]

/-- Pairing is only a shortcut: while no opening stands too deep, the tree of a pattern is the
tree of its lexemes as they are. -/
theorem parse_eq_grammar (source : String)
    (shallow : ∀ count ∈ pendingAtOpenings 0 (lexemes source), count < maxCallDepth) :
    parse source = grammar (lexemes source) := by
  unfold parse grammar pairCalls
  rw [nodesFrom_pairFrom 0 (lexemes source) shallow (Nat.le_zero.mp (pairFrom_closed_le 0 _))]

/-- A call inside another one and a third one that is never closed. -/
theorem parse_eq_grammar_halfTyped :
    let source := "\x7b\x7b#if: \x7b\x7b#len: \x7bhp\x7d\x7d\x7d | \x7b\x7b#len: a"
    pendingAtOpenings 0 (lexemes source) = [0, 1, 1] ∧
      (∀ count ∈ pendingAtOpenings 0 (lexemes source), count < maxCallDepth) ∧
      parse source = grammar (lexemes source) := by
  intro source
  have pending : pendingAtOpenings 0 (lexemes source) = [0, 1, 1] := by decide +kernel
  have shallow : ∀ count ∈ pendingAtOpenings 0 (lexemes source), count < maxCallDepth := by
    rw [pending]
    decide
  exact ⟨pending, shallow, parse_eq_grammar source shallow⟩

end CreatureNaming.Pattern
