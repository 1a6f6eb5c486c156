import CreatureNaming.Proofs.Pattern.Reading

/-! Derivations of the arguments of a call.

What reading does with the arguments of a call is said once, by what stands at the start of the
input. A nested call is derived with its own arguments, so an induction over a derivation reaches
the whole tree.
-/

set_option autoImplicit false

namespace CreatureNaming.Pattern

/-- The arguments of a call, the end of its closing, and what follows. As in reading, `done` holds
the nodes of the present argument, last one first. -/
inductive ArgumentsRead :
    List Node → List Lexeme → List (List Node) → Nat → List Lexeme → Prop where
  | closing {done : List Node} {input rest : List Lexeme} {span : Span}
      (closes : closing? input = some (span, rest)) :
      ArgumentsRead done input [argument done.reverse] span.stop rest
  | pipe {done : List Node} {first : Lexeme} {rest behind : List Lexeme}
      {arguments : List (List Node)} {stop : Nat} (separates : first.kind = .pipe)
      (others : ArgumentsRead [] rest arguments stop behind) :
      ArgumentsRead done (first :: rest) (argument done.reverse :: arguments) stop behind
  | call {done : List Node} {input body rest behind : List Lexeme} {found : Opening}
      {inner arguments : List (List Node)} {innerStop stop : Nat}
      (opens : opening? input = some (found, body))
      (inside : ArgumentsRead [] body inner innerStop rest)
      (others : ArgumentsRead
        (.call ⟨found.start, innerStop⟩ found.nameSpan found.name inner :: done)
        rest arguments stop behind) :
      ArgumentsRead done input arguments stop behind
  | reference {done : List Node} {input rest behind : List Lexeme} {name : String} {span : Span}
      {arguments : List (List Node)} {stop : Nat}
      (refers : reference? input = some (name, span, rest))
      (others : ArgumentsRead (.token span name :: done) rest arguments stop behind) :
      ArgumentsRead done input arguments stop behind
  | literal {done : List Node} {first : Lexeme} {rest behind : List Lexeme}
      {arguments : List (List Node)} {stop : Nat} (inside : first.kind ≠ .pipe)
      (unclosed : closing? (first :: rest) = none)
      (others : ArgumentsRead (first.toNode :: done) rest arguments stop behind) :
      ArgumentsRead done (first :: rest) arguments stop behind

/-- The nodes of a whole input. -/
inductive NodesRead : List Lexeme → List Node → Prop where
  | nil : NodesRead [] []
  | call {input body rest : List Lexeme} {found : Opening} {arguments : List (List Node)}
      {stop : Nat} {nodes : List Node} (opens : opening? input = some (found, body))
      (inside : ArgumentsRead [] body arguments stop rest) (others : NodesRead rest nodes) :
      NodesRead input (.call ⟨found.start, stop⟩ found.nameSpan found.name arguments :: nodes)
  | reference {input rest : List Lexeme} {name : String} {span : Span} {nodes : List Node}
      (refers : reference? input = some (name, span, rest)) (others : NodesRead rest nodes) :
      NodesRead input (.token span name :: nodes)
  | literal {first : Lexeme} {rest : List Lexeme} {nodes : List Node}
      (others : NodesRead rest nodes) : NodesRead (first :: rest) (first.toNode :: nodes)

variable {input rest : List Lexeme} {found : Opening} {node : Node}

theorem nodesFrom_nil : nodesFrom [] = [] := by
  have unopened : opening? [] = none := rfl
  rw [nodesFrom, readCall?_eq_none_iff.mp (readCall?_none unopened)]
  rfl

/-- A call that is read has an opening, and arguments behind it. -/
theorem readCall?_eq_some (called : readCall? input = some (node, rest)) :
    ∃ found body arguments stop, opening? input = some (found, body) ∧
      readArguments? [] body = some (arguments, stop, rest) ∧
      node = .call ⟨found.start, stop⟩ found.nameSpan found.name arguments := by
  obtain ⟨found, body, opens⟩ := opening?_of_readCall? called
  rw [readCall?_opening opens] at called
  obtain ⟨⟨arguments, stop, behind⟩, read, same⟩ := Option.map_eq_some_iff.mp called
  cases same
  exact ⟨found, body, arguments, stop, opens, read, rfl⟩

theorem argumentsRead {done : List Node} {arguments : List (List Node)} {stop : Nat}
    (read : readArguments? done input = some (arguments, stop, rest)) :
    ArgumentsRead done input arguments stop rest := by
  induction bound : input.length using Nat.strongRecOn
    generalizing done input arguments stop rest with
  | ind _ ih =>
    subst bound
    cases closes : closing? input with
    | some closed =>
      obtain ⟨span, behind⟩ := closed
      rw [readArguments?_closing done closes] at read
      cases read
      exact .closing closes
    | none =>
      cases input with
      | nil =>
        rw [readArguments?_nil] at read
        cases read
      | cons first behind =>
        by_cases separates : first.kind = .pipe
        · rw [readArguments?_pipe done behind separates] at read
          obtain ⟨⟨others, _, _⟩, read, same⟩ := Option.map_eq_some_iff.mp read
          cases same
          exact .pipe separates (ih _ (by simp) read rfl)
        · cases called : readCall? (first :: behind) with
          | some call =>
            obtain ⟨node, after⟩ := call
            rw [readArguments?_call done called] at read
            obtain ⟨found, body, inner, innerStop, opens, inside, rfl⟩ := readCall?_eq_some called
            have := length_of_opening? opens
            have := readArguments?_length inside
            exact .call opens (ih _ (by omega) inside rfl) (ih _ (by omega) read rfl)
          | none =>
            cases refers : reference? (first :: behind) with
            | some referred =>
              obtain ⟨name, span, after⟩ := referred
              rw [readArguments?_reference done refers] at read
              have := length_of_reference? refers
              exact .reference refers (ih _ (by omega) read rfl)
            | none =>
              rw [readArguments?_literal done separates closes called refers] at read
              exact .literal separates closes (ih _ (by simp) read rfl)

theorem nodesRead (input : List Lexeme) : NodesRead input (nodesFrom input) := by
  induction bound : input.length using Nat.strongRecOn generalizing input with
  | ind _ ih =>
    subst bound
    cases called : readCall? input with
    | some call =>
      obtain ⟨node, rest⟩ := call
      rw [nodesFrom_call called]
      obtain ⟨found, body, arguments, stop, opens, inside, rfl⟩ := readCall?_eq_some called
      have := length_of_opening? opens
      have := readArguments?_length inside
      exact .call opens (argumentsRead inside) (ih _ (by omega) rest rfl)
    | none =>
      cases refers : reference? input with
      | some referred =>
        obtain ⟨name, span, rest⟩ := referred
        rw [nodesFrom_reference refers]
        have := length_of_reference? refers
        exact .reference refers (ih _ (by omega) rest rfl)
      | none =>
        cases input with
        | nil =>
          rw [nodesFrom_nil]
          exact .nil
        | cons first rest =>
          rw [nodesFrom_literal called refers]
          exact .literal (ih _ (by simp) rest rfl)

end CreatureNaming.Pattern
