import CreatureNaming.Proofs.Pattern.Pairing

/-! Reading what the pairing leaves.

An opening that is left has a closing of its own, which its call is read up to, so no call is tried
in vain. How the arguments of a pending call are read is said once, by what stands in the input
before it was paired; inductions over such a derivation then compare the reading with the pairing.
-/

set_option autoImplicit false

namespace CreatureNaming.Pattern

variable {pending deeper : Nat} {input rest tail : List Lexeme} {found : Opening} {name : String}
  {span : Span} {first : Lexeme} {done : List Node} {arguments : List (List Node)} {stop : Nat}

/-- The arguments of the innermost pending call, the end of its closing, and what follows, as they
are read behind the pairing; `pending` openings are pending around the call. As in reading, `done`
holds the nodes of the present argument, last one first. -/
inductive ArgumentsPaired :
    Nat → List Node → List Lexeme → List (List Node) → Nat → List Lexeme → Prop where
  | closing {pending : Nat} {done : List Node} {input rest : List Lexeme} {span : Span}
      (closes : closing? input = some (span, rest)) :
      ArgumentsPaired pending done input [argument done.reverse] span.stop rest
  | pipe {pending : Nat} {done : List Node} {first : Lexeme} {rest behind : List Lexeme}
      {arguments : List (List Node)} {stop : Nat} (separates : first.kind = .pipe)
      (others : ArgumentsPaired pending [] rest arguments stop behind) :
      ArgumentsPaired pending done (first :: rest) (argument done.reverse :: arguments) stop behind
  | call {pending : Nat} {done : List Node} {input body rest behind : List Lexeme}
      {found : Opening} {inner arguments : List (List Node)} {innerStop stop : Nat}
      (opens : opening? input = some (found, body)) (room : pending + 1 < maxCallDepth)
      (inside : ArgumentsPaired (pending + 1) [] body inner innerStop rest)
      (others : ArgumentsPaired pending
        (.call ⟨found.start, innerStop⟩ found.nameSpan found.name inner :: done)
        rest arguments stop behind) :
      ArgumentsPaired pending done input arguments stop behind
  | tooDeep {pending : Nat} {done : List Node} {input rest behind : List Lexeme}
      {found : Opening} {arguments : List (List Node)} {stop : Nat}
      (opens : opening? input = some (found, rest)) (deep : ¬pending + 1 < maxCallDepth)
      (others : ArgumentsPaired pending (((input.take 5).map Lexeme.toNode).reverse ++ done)
        rest arguments stop behind) :
      ArgumentsPaired pending done input arguments stop behind
  | reference {pending : Nat} {done : List Node} {input rest behind : List Lexeme}
      {name : String} {span : Span} {arguments : List (List Node)} {stop : Nat}
      (refers : reference? input = some (name, span, rest))
      (others : ArgumentsPaired pending (.token span name :: done) rest arguments stop behind) :
      ArgumentsPaired pending done input arguments stop behind
  | literal {pending : Nat} {done : List Node} {first : Lexeme} {rest behind : List Lexeme}
      {arguments : List (List Node)} {stop : Nat} (inside : first.kind ≠ .pipe)
      (unopened : opening? (first :: rest) = none)
      (unreferred : reference? (first :: rest) = none)
      (unclosed : closing? (first :: rest) = none)
      (others : ArgumentsPaired pending (first.toNode :: done) rest arguments stop behind) :
      ArgumentsPaired pending done (first :: rest) arguments stop behind

/-! ## Openings that are turned into text -/

/-- Pairing passes an opening that is text already. -/
theorem pairFrom_escaped (pending : Nat) (opens : opening? input = some (found, rest))
    (tail : List Lexeme) :
    pairFrom pending (escapeFirst (input.take 5) ++ tail) =
      (escapeFirst (input.take 5) ++ (pairFrom pending tail).1, (pairFrom pending tail).2) := by
  obtain ⟨_, _, _, _, _, _, -, -, rfl⟩ := opening?_shape opens
  simp only [List.take_succ_cons, List.take_zero, escapeFirst, List.cons_append, List.nil_append]
  iterate 5 rw [pairFrom_single rfl rfl (.inl rfl)]

theorem readArguments?_escaped (done : List Node) (opens : opening? input = some (found, rest))
    (tail : List Lexeme) :
    readArguments? done (escapeFirst (input.take 5) ++ tail) =
      readArguments? (((input.take 5).map Lexeme.toNode).reverse ++ done) tail := by
  obtain ⟨_, _, _, _, _, _, -, -, rfl⟩ := opening?_shape opens
  simp only [List.take_succ_cons, List.take_zero, escapeFirst, List.cons_append, List.nil_append]
  iterate 5 rw [readArguments?_literal _ (by simp [Lexeme.asText]) rfl (readCall?_none rfl) rfl]
  rfl

theorem opening?_escaped (opens : opening? input = some (found, rest)) (tail : List Lexeme) :
    opening? (escapeFirst (input.take 5) ++ tail) = none := by
  obtain ⟨_, _, _, _, _, _, -, -, rfl⟩ := opening?_shape opens
  rfl

theorem unbuilt_pipe (rest : List Lexeme) (separates : first.kind = .pipe) :
    opening? (first :: rest) = none ∧ reference? (first :: rest) = none ∧
      closing? (first :: rest) = none := by
  have other : first.kind ≠ .braceOpen := by simp [separates]
  have unclosed : first.kind ≠ .braceClose := by simp [separates]
  exact ⟨opening?_of_ne rest other, reference?_of_ne rest other, closing?_of_ne rest unclosed⟩

theorem pairFrom_pipe (pending : Nat) (rest : List Lexeme) (separates : first.kind = .pipe) :
    pairFrom pending (first :: rest) =
      (first :: (pairFrom pending rest).1, (pairFrom pending rest).2) := by
  obtain ⟨unopened, unreferred, unclosed⟩ := unbuilt_pipe rest separates
  exact pairFrom_single unopened unreferred (.inl unclosed)

/-! ## Derivations -/

/-- The pairing closes the call where its arguments end, and then one opening less is pending. -/
theorem ArgumentsPaired.closed (paired : ArgumentsPaired pending done input arguments stop rest) :
    (pairFrom (pending + 1) input).2 = (pairFrom pending rest).2 + 1 := by
  induction paired with
  | closing closes => rw [pairFrom_closing _ closes]
  | pipe separates others ih =>
    rw [pairFrom_pipe _ _ separates]
    exact ih
  | call opens room inside others ihInside ihOthers =>
    rw [pairFrom_opening opens room, if_neg (by omega), ihInside, ihOthers]
    rfl
  | tooDeep opens deep others ih =>
    rw [pairFrom_tooDeep opens deep]
    exact ih
  | reference refers others ih =>
    rw [pairFrom_reference _ refers]
    exact ih
  | literal inside unopened unreferred unclosed others ih =>
    rw [pairFrom_single unopened unreferred (.inl unclosed)]
    exact ih

/-- A call closes none of the openings around it. -/
theorem ArgumentsPaired.closed_call {body : List Lexeme}
    (inside : ArgumentsPaired pending done body arguments stop rest)
    (opens : opening? input = some (found, body)) (room : pending < maxCallDepth) :
    (pairFrom pending input).2 = (pairFrom pending rest).2 := by
  rw [pairFrom_opening opens room, if_neg (by rw [inside.closed]; omega), inside.closed]
  rfl

theorem ArgumentsPaired.length (paired : ArgumentsPaired pending done input arguments stop rest) :
    rest.length < input.length := by
  induction paired with
  | closing closes => have := length_of_closing? closes; omega
  | pipe separates others ih => exact Nat.lt_succ_of_lt ih
  | call opens room inside others ihInside ihOthers =>
    have := length_of_opening? opens
    omega
  | tooDeep opens deep others ih => have := length_of_opening? opens; omega
  | reference refers others ih => have := length_of_reference? refers; omega
  | literal inside unopened unreferred unclosed others ih => exact Nat.lt_succ_of_lt ih

/-- What stands for itself before the pairing stands for itself behind it. -/
theorem unbuilt_paired (pending : Nat) (unopened : opening? (first :: rest) = none)
    (unreferred : reference? (first :: rest) = none) :
    opening? (first :: (pairFrom pending rest).1) = none ∧
      reference? (first :: (pairFrom pending rest).1) = none ∧
      (closing? (first :: rest) = none → closing? (first :: (pairFrom pending rest).1) = none) := by
  have demotes : List.Forall₂ Lexeme.Demotes (first :: rest) (first :: (pairFrom pending rest).1) :=
    .cons (.inl rfl) (pairFrom_demotes pending rest)
  exact ⟨opening?_none_of_demotes demotes unopened, reference?_none_of_demotes demotes unreferred,
    closing?_none_of_demotes demotes⟩

/-- A call is read behind the pairing if its arguments are. -/
theorem readCall?_pairFrom {body : List Lexeme} (opens : opening? input = some (found, body))
    (room : pending < maxCallDepth)
    (inside : ArgumentsPaired pending done body arguments stop rest)
    (read : readArguments? [] (pairFrom (pending + 1) body).1 =
      some (arguments, stop, (pairFrom pending rest).1)) :
    readCall? (pairFrom pending input).1 =
      some (.call ⟨found.start, stop⟩ found.nameSpan found.name arguments,
        (pairFrom pending rest).1) := by
  rw [pairFrom_opening opens room, if_neg (by rw [inside.closed]; omega),
    readCall?_opening (opening?_take opens _), read]
  rfl

/-- Reading follows the derivation behind the pairing. -/
theorem ArgumentsPaired.read (paired : ArgumentsPaired pending done input arguments stop rest) :
    readArguments? done (pairFrom (pending + 1) input).1 =
      some (arguments, stop, (pairFrom pending rest).1) := by
  induction paired with
  | closing closes =>
    rw [pairFrom_closing _ closes]
    exact readArguments?_closing _ (closing?_take closes _)
  | pipe separates others ih =>
    rw [pairFrom_pipe _ _ separates, readArguments?_pipe _ _ separates, ih]
    rfl
  | call opens room inside others ihInside ihOthers =>
    have called := readCall?_pairFrom opens room inside ihInside
    rw [readArguments?_call _ called, ihOthers]
  | tooDeep opens deep others ih =>
    rw [pairFrom_tooDeep opens deep, readArguments?_escaped _ opens, ih]
  | reference refers others ih =>
    rw [pairFrom_reference _ refers, readArguments?_reference _ (reference?_take refers _), ih]
  | literal inside unopened unreferred unclosed others ih =>
    obtain ⟨unopenedStill, unreferredStill, unclosedStill⟩ :=
      unbuilt_paired _ unopened unreferred
    rw [pairFrom_single unopened unreferred (.inl unclosed),
      readArguments?_literal _ inside (unclosedStill unclosed) (readCall?_none unopenedStill)
        unreferredStill]
    exact ih

/-- If the pairing closes a pending call, there is a derivation of its arguments. -/
theorem argumentsPaired (pending : Nat) (done : List Node) (input : List Lexeme)
    (closed : (pairFrom (pending + 1) input).2 ≠ 0) :
    ∃ arguments stop rest, ArgumentsPaired pending done input arguments stop rest := by
  -- The call being read is the innermost pending one, so the count is never zero here.
  induction counted : pending + 1, input using pairing_induction generalizing pending done with
  | nothing count => simp [pairFrom_nil] at closed
  | opening count input found rest opens ih =>
    subst counted
    by_cases room : pending + 1 < maxCallDepth
    · -- Closings go to the innermost opening first: were this one not closed, no other would be.
      have bodyClosed : (pairFrom (pending + 1 + 1) rest).2 ≠ 0 := by
        intro unclosed
        rw [pairFrom_opening opens room, if_pos unclosed] at closed
        exact closed rfl
      obtain ⟨inner, innerStop, behind, inside⟩ :=
        ih _ rest (Nat.le_refl _) (pending + 1) [] bodyClosed rfl
      rw [inside.closed_call opens room] at closed
      obtain ⟨arguments, stop, later, others⟩ :=
        ih _ behind (Nat.le_of_lt inside.length) pending
          (.call ⟨found.start, innerStop⟩ found.nameSpan found.name inner :: done) closed rfl
      exact ⟨arguments, stop, later, .call opens room inside others⟩
    · rw [pairFrom_tooDeep opens room] at closed
      obtain ⟨arguments, stop, later, others⟩ := ih _ rest (Nat.le_refl _) pending
        (((input.take 5).map Lexeme.toNode).reverse ++ done) closed rfl
      exact ⟨arguments, stop, later, .tooDeep opens room others⟩
  | reference count input name span rest refers ih =>
    subst counted
    rw [pairFrom_reference _ refers] at closed
    obtain ⟨arguments, stop, later, others⟩ :=
      ih _ rest (Nat.le_refl _) pending (.token span name :: done) closed rfl
    exact ⟨arguments, stop, later, .reference refers others⟩
  | closing outer input span rest closes ih =>
    cases counted
    exact ⟨_, _, _, .closing closes⟩
  | single count first rest unopened unreferred unclosed ih =>
    subst counted
    rw [pairFrom_single unopened unreferred unclosed] at closed
    have derived (done : List Node) := ih _ rest (Nat.le_refl _) pending done closed rfl
    by_cases separates : first.kind = .pipe
    · obtain ⟨arguments, stop, later, others⟩ := derived []
      exact ⟨_, _, _, .pipe separates others⟩
    · obtain ⟨arguments, stop, later, others⟩ := derived (first.toNode :: done)
      exact ⟨_, _, _, .literal separates unopened unreferred (unclosed.resolve_right (by simp))
        others⟩

/-! ## Closings of their own -/

/-- The closing that balances `deeper` openings and one more, with what follows it. -/
def closingOf? (deeper : Nat) (input : List Lexeme) : Option (Span × List Lexeme) :=
  match _opening : opening? input with
  | some (_, rest) => closingOf? (deeper + 1) rest
  | none =>
      match _reference : reference? input with
      | some (_, _, rest) => closingOf? deeper rest
      | none =>
          match _closing : closing? input, deeper with
          | some closed, 0 => some closed
          | some (_, rest), deeper + 1 => closingOf? deeper rest
          | none, deeper =>
              match input with
              | [] => none
              | _ :: rest => closingOf? deeper rest
termination_by input.length
decreasing_by
  · have := length_of_opening? _opening; omega
  · have := length_of_reference? _reference; omega
  · have := length_of_closing? _closing; omega
  · simp

theorem closingOf?_opening (deeper : Nat) (opens : opening? input = some (found, rest)) :
    closingOf? deeper input = closingOf? (deeper + 1) rest := by
  rw [closingOf?]
  split <;> simp_all

theorem closingOf?_reference (deeper : Nat) (refers : reference? input = some (name, span, rest)) :
    closingOf? deeper input = closingOf? deeper rest := by
  have unopened := opening?_of_reference? refers
  rw [closingOf?]
  split
  · simp_all
  · split <;> simp_all

theorem closingOf?_closed (closes : closing? input = some (span, rest)) :
    closingOf? 0 input = some (span, rest) := by
  obtain ⟨_, _, rfl, rfl⟩ := closing?_shape closes
  rw [closingOf?]
  rfl

theorem closingOf?_closing (deeper : Nat) (closes : closing? input = some (span, rest)) :
    closingOf? (deeper + 1) input = closingOf? deeper rest := by
  obtain ⟨_, _, rfl, rfl⟩ := closing?_shape closes
  rw [closingOf?]
  rfl

theorem closingOf?_single (deeper : Nat) (unopened : opening? (first :: rest) = none)
    (unreferred : reference? (first :: rest) = none)
    (unclosed : closing? (first :: rest) = none) :
    closingOf? deeper (first :: rest) = closingOf? deeper rest := by
  rw [closingOf?]
  split
  · simp_all
  · split
    · simp_all
    · split <;> simp_all

theorem closingOf?_escaped (deeper : Nat) (opens : opening? input = some (found, rest))
    (tail : List Lexeme) :
    closingOf? deeper (escapeFirst (input.take 5) ++ tail) = closingOf? deeper tail := by
  obtain ⟨_, _, _, _, _, _, -, -, rfl⟩ := opening?_shape opens
  simp only [List.take_succ_cons, List.take_zero, escapeFirst, List.cons_append, List.nil_append]
  iterate 5 rw [closingOf?_single _ rfl rfl rfl]

/-- An input goes on to the closing of one opening, which ends at `stop` with `rest` behind it. -/
def Balances (input : List Lexeme) (stop : Nat) (rest : List Lexeme) : Prop :=
  (∃ closing, closing.stop = stop ∧ closingOf? 0 input = some (closing, rest)) ∧
    ∀ deeper, closingOf? (deeper + 1) input = closingOf? deeper rest

theorem Balances.closing (closes : closing? input = some (span, rest)) :
    Balances input span.stop rest :=
  ⟨⟨span, rfl, closingOf?_closed closes⟩, fun deeper => closingOf?_closing deeper closes⟩

theorem Balances.step {later : List Lexeme}
    (same : ∀ deeper, closingOf? deeper input = closingOf? deeper later)
    (balances : Balances later stop rest) : Balances input stop rest := by
  unfold Balances
  simp only [same]
  exact balances

/-- A call ends with the closing that balances its opening. -/
theorem ArgumentsPaired.balances (paired : ArgumentsPaired pending done input arguments stop rest) :
    Balances (pairFrom (pending + 1) input).1 stop (pairFrom pending rest).1 := by
  induction paired with
  | closing closes =>
    rw [pairFrom_closing _ closes]
    exact .closing (closing?_take closes _)
  | pipe separates others ih =>
    rw [pairFrom_pipe _ _ separates]
    obtain ⟨unopened, unreferred, unclosed⟩ := unbuilt_pipe _ separates
    exact .step (fun deeper => closingOf?_single deeper unopened unreferred unclosed) ih
  | call opens room inside others ihInside ihOthers =>
    refine .step (fun deeper => ?_) ihOthers
    -- Within the call one opening more is balanced.
    rw [pairFrom_opening opens room, if_neg (by rw [inside.closed]; omega),
      closingOf?_opening _ (opening?_take opens _)]
    exact ihInside.2 deeper
  | tooDeep opens deep others ih =>
    rw [pairFrom_tooDeep opens deep]
    exact .step (fun deeper => closingOf?_escaped deeper opens _) ih
  | reference refers others ih =>
    rw [pairFrom_reference _ refers]
    exact .step (fun deeper => closingOf?_reference deeper (reference?_take refers _)) ih
  | literal inside unopened unreferred unclosed others ih =>
    obtain ⟨unopenedStill, unreferredStill, unclosedStill⟩ :=
      unbuilt_paired _ unopened unreferred
    rw [pairFrom_single unopened unreferred (.inl unclosed)]
    refine .step (fun deeper => ?_) ih
    exact closingOf?_single deeper unopenedStill unreferredStill (unclosedStill unclosed)

/-! ## What the pairing leaves -/

/-- An opening that is left was one before, and the pairing closes it. -/
theorem opening?_pairFrom {body : List Lexeme} (pending : Nat) (input : List Lexeme)
    (opens : opening? (pairFrom pending input).1 = some (found, body)) :
    ∃ rest, body = (pairFrom (pending + 1) rest).1 ∧ (pairFrom (pending + 1) rest).2 ≠ 0 := by
  cases opened : opening? input with
  | none =>
    rw [opening?_none_of_demotes (pairFrom_demotes pending input) opened] at opens
    cases opens
  | some opening =>
    obtain ⟨found, rest⟩ := opening
    by_cases room : pending < maxCallDepth
    · rw [pairFrom_opening opened room] at opens
      split at opens
      · rw [opening?_escaped opened] at opens
        cases opens
      · next closed =>
        rw [opening?_take opened] at opens
        cases opens
        exact ⟨rest, rfl, closed⟩
    · rw [pairFrom_tooDeep opened room, opening?_escaped opened] at opens
      cases opens

/-- Behind its first brace, the pairing leaves an opening as it is. -/
theorem pairFrom_behindBrace (pending : Nat) (opens : opening? input = some (found, rest)) :
    ∃ first count, (pairFrom pending input).1 =
      first :: ((input.take 5).tail ++ (pairFrom count rest).1) := by
  obtain ⟨_, _, _, _, _, _, -, -, shape⟩ := opening?_shape opens
  by_cases room : pending < maxCallDepth
  · rw [pairFrom_opening opens room, shape]
    split <;> exact ⟨_, pending + 1, rfl⟩
  · rw [pairFrom_tooDeep opens room, shape]
    exact ⟨_, pending, rfl⟩

/-- Within an opening no other one begins. -/
theorem suffix_of_opening {here : List Lexeme} {other : Opening} {body : List Lexeme}
    (opens : opening? input = some (found, rest)) (suffix : here <:+ (input.take 5).tail ++ tail)
    (begins : opening? here = some (other, body)) : here <:+ tail := by
  obtain ⟨_, _, _, _, _, _, -, -, rfl⟩ := opening?_shape opens
  simp only [List.take_succ_cons, List.take_zero, List.tail_cons, List.cons_append,
    List.nil_append, List.suffix_cons_iff] at suffix
  rcases suffix with rfl | rfl | rfl | rfl | suffix
  · cases begins
  · cases begins
  · cases begins
  · cases begins
  · exact suffix

/-- Wherever an opening is left, the pairing has come by. -/
theorem exists_pairFrom_eq {here : List Lexeme} {other : Opening} {body : List Lexeme}
    (pending : Nat) (input : List Lexeme) (suffix : here <:+ (pairFrom pending input).1)
    (begins : opening? here = some (other, body)) :
    ∃ count later, here = (pairFrom count later).1 := by
  induction pending, input using pairing_induction with
  | nothing pending =>
    rw [pairFrom_nil, List.suffix_nil] at suffix
    subst suffix
    cases begins
  | opening pending input found rest opens ih =>
    obtain ⟨first, count, paired⟩ := pairFrom_behindBrace pending opens
    rw [paired, List.suffix_cons_iff] at suffix
    rcases suffix with whole | behind
    · exact ⟨pending, input, by rw [paired, whole]⟩
    · exact ih count rest (Nat.le_refl _) (suffix_of_opening opens behind begins)
  | reference pending input name span rest refers ih =>
    have paired := pairFrom_reference pending refers
    obtain ⟨_, _, _, -, -, rfl⟩ := reference?_shape refers
    simp only [paired, List.take_succ_cons, List.take_zero, List.cons_append, List.nil_append,
      List.suffix_cons_iff] at suffix
    rcases suffix with whole | rfl | rfl | behind
    · exact ⟨pending, _, by rw [paired]; exact whole⟩
    · cases begins
    · cases begins
    · exact ih _ rest (Nat.le_refl _) behind
  | closing outer input span rest closes ih =>
    have paired := pairFrom_closing outer closes
    obtain ⟨_, _, -, rfl⟩ := closing?_shape closes
    simp only [paired, List.take_succ_cons, List.take_zero, List.cons_append, List.nil_append,
      List.suffix_cons_iff] at suffix
    rcases suffix with rfl | rfl | behind
    · cases begins
    · cases begins
    · exact ih _ rest (Nat.le_refl _) behind
  | single pending first rest unopened unreferred unclosed ih =>
    rw [pairFrom_single unopened unreferred unclosed, List.suffix_cons_iff] at suffix
    rcases suffix with whole | behind
    · exact ⟨pending, first :: rest, by rw [pairFrom_single unopened unreferred unclosed, whole]⟩
    · exact ih _ rest (Nat.le_refl _) behind

/-- Pairing what has been paired changes nothing, even if of the pending openings only those are
pending that will be closed. -/
theorem pairFrom_again (pending : Nat) (input : List Lexeme) :
    pairFrom (pairFrom pending input).2 (pairFrom pending input).1 = pairFrom pending input := by
  induction pending, input using pairing_induction with
  | nothing pending => simp only [pairFrom_nil]
  | opening pending input found rest opens ih =>
    by_cases room : pending < maxCallDepth
    · have again := ih (pending + 1) rest (Nat.le_refl _)
      rw [pairFrom_opening opens room]
      split
      · next unclosed =>
        rw [unclosed] at again
        rw [pairFrom_escaped 0 opens, again, unclosed]
      · next closed =>
        have le := pairFrom_closed_le (pending + 1) rest
        have counted : (pairFrom (pending + 1) rest).2 - 1 + 1 =
            (pairFrom (pending + 1) rest).2 := by omega
        rw [pairFrom_opening (opening?_take opens _) (by dsimp only; omega), counted, again,
          if_neg closed]
        obtain ⟨_, _, _, _, _, _, -, -, rfl⟩ := opening?_shape opens
        rfl
    · rw [pairFrom_tooDeep opens room, pairFrom_escaped _ opens, ih _ rest (Nat.le_refl _)]
  | reference pending input name span rest refers ih =>
    rw [pairFrom_reference _ refers, pairFrom_reference _ (reference?_take refers _),
      ih _ rest (Nat.le_refl _)]
    obtain ⟨_, _, _, -, -, rfl⟩ := reference?_shape refers
    rfl
  | closing outer input span rest closes ih =>
    rw [pairFrom_closing _ closes, pairFrom_closing _ (closing?_take closes _),
      ih _ rest (Nat.le_refl _)]
    obtain ⟨_, _, -, rfl⟩ := closing?_shape closes
    rfl
  | single pending first rest unopened unreferred unclosed ih =>
    obtain ⟨unopenedStill, unreferredStill, unclosedStill⟩ :=
      unbuilt_paired pending unopened unreferred
    have unclosedNow : closing? (first :: (pairFrom pending rest).1) = none ∨
        (pairFrom pending rest).2 = 0 := by
      refine unclosed.imp unclosedStill fun none => ?_
      subst none
      exact Nat.le_zero.mp (pairFrom_closed_le 0 rest)
    rw [pairFrom_single unopened unreferred unclosed,
      pairFrom_single unopenedStill unreferredStill unclosedNow, ih _ rest (Nat.le_refl _)]

/-- Where an opening is left, its call is read up to the closing that balances it. -/
theorem readCall?_paired {here body : List Lexeme} (suffix : here <:+ pairCalls input)
    (begins : opening? here = some (found, body)) :
    ∃ arguments closing rest, closingOf? 0 body = some (closing, rest) ∧
      readCall? here =
        some (.call ⟨found.start, closing.stop⟩ found.nameSpan found.name arguments, rest) := by
  obtain ⟨count, later, rfl⟩ := exists_pairFrom_eq 0 input suffix begins
  obtain ⟨unpaired, rfl, closed⟩ := opening?_pairFrom count later begins
  obtain ⟨arguments, stop, rest, paired⟩ := argumentsPaired count [] unpaired closed
  obtain ⟨⟨closing, rfl, balanced⟩, -⟩ := paired.balances
  refine ⟨arguments, closing, _, balanced, ?_⟩
  rw [readCall?_opening begins, paired.read]
  rfl

/-- Behind the pairing no call is tried in vain: wherever reading may stand, which is at the start
of an end of the input, an opening there is that of a call up to the closing that balances it.
Pairing again changes nothing, and pairing changes open braces only, into text of the same literal
and range. -/
theorem pairCalls_settles (input : List Lexeme) :
    (∀ here found body, here <:+ pairCalls input → opening? here = some (found, body) →
      ∃ arguments closing rest, closingOf? 0 body = some (closing, rest) ∧
        readCall? here =
          some (.call ⟨found.start, closing.stop⟩ found.nameSpan found.name arguments, rest)) ∧
    pairCalls (pairCalls input) = pairCalls input ∧
    List.Forall₂
      (fun lexeme paired => paired = lexeme ∨
        lexeme.kind = .braceOpen ∧ paired.kind = .escaped '\x7b' ∧
          paired.literal = lexeme.literal ∧ paired.span = lexeme.span)
      input (pairCalls input) := by
  refine ⟨fun here found body suffix begins => readCall?_paired suffix begins, ?_, ?_⟩
  · have again := pairFrom_again 0 input
    have none : (pairFrom 0 input).2 = 0 := Nat.le_zero.mp (pairFrom_closed_le 0 input)
    rw [none] at again
    exact congrArg Prod.fst again
  · refine (pairFrom_demotes 0 input).imp fun lexeme paired demotes => ?_
    refine demotes.imp_right ?_
    rintro ⟨brace, rfl⟩
    refine ⟨brace, rfl, ?_, rfl⟩
    simp [Lexeme.literal, Lexeme.asText, brace]

/-- A call behind an opening that is turned into text. -/
theorem pairCalls_settles_halfTyped :
    let input := lexemes "\x7b\x7b#if: \x7b\x7b#len:a\x7d\x7d"
    let here := (pairCalls input).drop 6
    ∃ found body, found.name = "len" ∧ here <:+ pairCalls input ∧
      opening? here = some (found, body) ∧
      (∃ arguments closing rest, closingOf? 0 body = some (closing, rest) ∧
        readCall? here =
          some (.call ⟨found.start, closing.stop⟩ found.nameSpan found.name arguments, rest)) ∧
      pairCalls (pairCalls input) = pairCalls input := by
  intro input here
  have named : (opening? here).map (fun opening => opening.1.name) = some "len" := by
    decide +kernel
  obtain ⟨⟨found, body⟩, begins, name⟩ := Option.map_eq_some_iff.mp named
  have suffix : here <:+ pairCalls input := List.drop_suffix 6 _
  obtain ⟨calls, again, -⟩ := pairCalls_settles input
  exact ⟨found, body, name, suffix, begins, calls here found body suffix begins, again⟩

end CreatureNaming.Pattern
