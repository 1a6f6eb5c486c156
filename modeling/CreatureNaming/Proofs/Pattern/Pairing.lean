import CreatureNaming.Proofs.Pattern.Reading
import Mathlib.Data.List.Forall2

/-! What the pairing of call openings with closings does to an input.

`pairing_induction` says once how an input can begin as the pairing sees it; every induction
over the pairing follows it. The main statement is that pairing is only a shortcut: as long as no
opening stands too deep, the tree of a pattern is that of its lexemes as they are.
-/

set_option autoImplicit false

namespace CreatureNaming.Pattern

variable {pending : Nat} {input rest : List Lexeme} {found : Opening} {name : String}
  {span : Span} {first : Lexeme}

/-- Induction over an input by what stands at its start: an opening, a reference, a closing of
a pending opening, or a lexeme that is passed by itself. -/
@[elab_as_elim]
theorem pairing_induction {motive : Nat → List Lexeme → Prop}
    (nothing : ∀ pending, motive pending [])
    (opening : ∀ pending input found rest, opening? input = some (found, rest) →
      (∀ count later, later.length ≤ rest.length → motive count later) → motive pending input)
    (reference : ∀ pending input name span rest, reference? input = some (name, span, rest) →
      (∀ count later, later.length ≤ rest.length → motive count later) → motive pending input)
    (closing : ∀ outer input span rest, closing? input = some (span, rest) →
      (∀ count later, later.length ≤ rest.length → motive count later) → motive (outer + 1) input)
    (single : ∀ pending first rest, opening? (first :: rest) = none →
      reference? (first :: rest) = none → (closing? (first :: rest) = none ∨ pending = 0) →
      (∀ count later, later.length ≤ rest.length → motive count later) →
      motive pending (first :: rest))
    (pending : Nat) (input : List Lexeme) : motive pending input := by
  induction bound : input.length using Nat.strongRecOn generalizing pending input with
  | ind _ ih =>
    subst bound
    have below (rest : List Lexeme) (shorter : rest.length < input.length) (count : Nat)
        (later : List Lexeme) (le : later.length ≤ rest.length) : motive count later :=
      ih later.length (Nat.lt_of_le_of_lt le shorter) count later rfl
    -- The order in which pairing tries them decides what stands at the start.
    cases opens : opening? input with
    | some opened =>
      obtain ⟨found, rest⟩ := opened
      have := length_of_opening? opens
      exact opening _ _ _ _ opens (below rest (by omega))
    | none =>
      cases refers : reference? input with
      | some referred =>
        obtain ⟨name, span, rest⟩ := referred
        have := length_of_reference? refers
        exact reference _ _ _ _ _ refers (below rest (by omega))
      | none =>
        cases input with
        | nil => exact nothing pending
        | cons first rest =>
          have ih := below rest (by simp)
          cases closes : closing? (first :: rest) with
          | none => exact single _ _ _ opens refers (.inl closes) ih
          | some closed =>
            obtain ⟨span, behind⟩ := closed
            have := length_of_closing? closes
            cases pending with
            | zero => exact single _ _ _ opens refers (.inr rfl) ih
            | succ outer => exact closing _ _ _ _ closes (below behind (by omega))

/-! ## The equations of pairing -/

theorem pairFrom_nil (pending : Nat) : pairFrom pending [] = ([], 0) := by
  rw [pairFrom]
  rfl

theorem pairFrom_opening (opens : opening? input = some (found, rest))
    (shallow : pending < maxCallDepth) :
    pairFrom pending input =
      if (pairFrom (pending + 1) rest).2 = 0 then
        (escapeFirst (input.take 5) ++ (pairFrom (pending + 1) rest).1, 0)
      else
        (input.take 5 ++ (pairFrom (pending + 1) rest).1, (pairFrom (pending + 1) rest).2 - 1) := by
  rw [pairFrom]
  split
  · next same =>
    rw [opens] at same
    obtain ⟨rfl, rfl⟩ := same
    rw [if_pos shallow]
    split <;> simp_all
  · simp_all

theorem pairFrom_tooDeep (opens : opening? input = some (found, rest))
    (deep : ¬pending < maxCallDepth) :
    pairFrom pending input =
      (escapeFirst (input.take 5) ++ (pairFrom pending rest).1, (pairFrom pending rest).2) := by
  rw [pairFrom]
  split
  · next same =>
    rw [opens] at same
    obtain ⟨rfl, rfl⟩ := same
    rw [if_neg deep]
  · simp_all

theorem pairFrom_reference (pending : Nat) (refers : reference? input = some (name, span, rest)) :
    pairFrom pending input =
      (input.take 3 ++ (pairFrom pending rest).1, (pairFrom pending rest).2) := by
  have unopened := opening?_of_reference? refers
  rw [pairFrom]
  split
  · simp_all
  · split
    · next same =>
      rw [refers] at same
      obtain ⟨rfl, rfl, rfl⟩ := same
      rfl
    · simp_all

theorem pairFrom_closing (pending : Nat) (closes : closing? input = some (span, rest)) :
    pairFrom (pending + 1) input =
      (input.take 2 ++ (pairFrom pending rest).1, (pairFrom pending rest).2 + 1) := by
  have unopened := opening?_of_closing? closes
  have unreferred := reference?_of_closing? closes
  rw [pairFrom]
  split
  · simp_all
  · split
    · simp_all
    · split
      · next same counted =>
        rw [closes] at same
        obtain ⟨rfl, rfl⟩ := same
        cases counted
        rfl
      · simp_all

theorem pairFrom_single (unopened : opening? (first :: rest) = none)
    (unreferred : reference? (first :: rest) = none)
    (unclosed : closing? (first :: rest) = none ∨ pending = 0) :
    pairFrom pending (first :: rest) =
      (first :: (pairFrom pending rest).1, (pairFrom pending rest).2) := by
  rw [pairFrom]
  split
  · simp_all
  · split
    · simp_all
    · split
      · simp_all
      · rfl

/-- No more openings are closed than are pending. -/
theorem pairFrom_closed_le (pending : Nat) (input : List Lexeme) :
    (pairFrom pending input).2 ≤ pending := by
  induction pending, input using pairing_induction with
  | nothing pending => simp [pairFrom_nil]
  | opening pending input found rest opens ih =>
    by_cases shallow : pending < maxCallDepth
    · have := ih (pending + 1) rest (Nat.le_refl _)
      rw [pairFrom_opening opens shallow]
      split
      · exact Nat.zero_le _
      · exact Nat.sub_le_of_le_add this
    · rw [pairFrom_tooDeep opens shallow]
      exact ih pending rest (Nat.le_refl _)
  | reference pending input name span rest refers ih =>
    rw [pairFrom_reference pending refers]
    exact ih pending rest (Nat.le_refl _)
  | closing outer input span rest closes ih =>
    rw [pairFrom_closing outer closes]
    exact Nat.succ_le_succ (ih outer rest (Nat.le_refl _))
  | single pending first rest unopened unreferred unclosed ih =>
    rw [pairFrom_single unopened unreferred unclosed]
    exact ih pending rest (Nat.le_refl _)

/-! ## What pairing changes -/

/-- A lexeme stays as it is, or is an open brace that becomes text. -/
def Lexeme.Demotes (lexeme paired : Lexeme) : Prop :=
  paired = lexeme ∨ lexeme.kind = .braceOpen ∧ paired = lexeme.asText

theorem Lexeme.Demotes.eq {lexeme paired : Lexeme} (demotes : lexeme.Demotes paired)
    (structural : paired.kind ≠ .escaped '{') : lexeme = paired := by
  rcases demotes with same | ⟨-, rfl⟩
  · exact same.symm
  · exact absurd rfl structural

theorem demotes_opening (opens : opening? input = some (found, rest)) {paired : List Lexeme}
    (demotes : List.Forall₂ Lexeme.Demotes rest paired) :
    List.Forall₂ Lexeme.Demotes input (input.take 5 ++ paired) ∧
      List.Forall₂ Lexeme.Demotes input (escapeFirst (input.take 5) ++ paired) := by
  obtain ⟨_, _, _, _, _, _, -, -, rfl⟩ := opening?_shape opens
  simp [escapeFirst, Lexeme.Demotes, demotes]

/-- Only open braces change, and only into text. -/
theorem pairFrom_demotes (pending : Nat) (input : List Lexeme) :
    List.Forall₂ Lexeme.Demotes input (pairFrom pending input).1 := by
  induction pending, input using pairing_induction with
  | nothing pending =>
    rw [pairFrom_nil]
    exact .nil
  | opening pending input found rest opens ih =>
    by_cases shallow : pending < maxCallDepth
    · have ⟨kept, escaped⟩ := demotes_opening opens (ih (pending + 1) rest (Nat.le_refl _))
      rw [pairFrom_opening opens shallow]
      split
      · exact escaped
      · exact kept
    · rw [pairFrom_tooDeep opens shallow]
      exact (demotes_opening opens (ih pending rest (Nat.le_refl _))).2
  | reference pending input name span rest refers ih =>
    obtain ⟨_, _, _, -, -, rfl⟩ := reference?_shape refers
    rw [pairFrom_reference pending refers]
    exact .cons (.inl rfl) (.cons (.inl rfl) (.cons (.inl rfl) (ih _ _ (Nat.le_refl _))))
  | closing outer input span rest closes ih =>
    obtain ⟨_, _, -, rfl⟩ := closing?_shape closes
    rw [pairFrom_closing outer closes]
    exact .cons (.inl rfl) (.cons (.inl rfl) (ih _ _ (Nat.le_refl _)))
  | single pending first rest unopened unreferred unclosed ih =>
    rw [pairFrom_single unopened unreferred unclosed]
    exact .cons (.inl rfl) (ih _ _ (Nat.le_refl _))

theorem opening?_none_of_demotes {paired : List Lexeme}
    (demotes : List.Forall₂ Lexeme.Demotes input paired) (unopened : opening? input = none) :
    opening? paired = none := by
  refine Option.eq_none_iff_forall_ne_some.mpr fun ⟨found, behind⟩ opens => ?_
  obtain ⟨_, _, _, _, _, _, identifier, -, rfl⟩ := opening?_shape opens
  -- None of the five lexemes is text from a brace, so all of them were there before.
  simp only [List.forall₂_cons_right_iff] at demotes
  obtain ⟨_, _, first, ⟨_, _, second, ⟨_, _, third, ⟨_, _, fourth, ⟨_, _, fifth, -, rfl⟩, rfl⟩,
    rfl⟩, rfl⟩, rfl⟩ := demotes
  rw [first.eq (by simp), second.eq (by simp), third.eq (by simp), fourth.eq (by simp),
    fifth.eq (by simp)] at unopened
  simp [opening?, identifier] at unopened

theorem reference?_none_of_demotes {paired : List Lexeme}
    (demotes : List.Forall₂ Lexeme.Demotes input paired) (unreferred : reference? input = none) :
    reference? paired = none := by
  refine Option.eq_none_iff_forall_ne_some.mpr fun ⟨name, span, behind⟩ refers => ?_
  obtain ⟨_, _, _, identifier, -, rfl⟩ := reference?_shape refers
  simp only [List.forall₂_cons_right_iff] at demotes
  obtain ⟨_, _, first, ⟨_, _, second, ⟨_, _, third, -, rfl⟩, rfl⟩, rfl⟩ := demotes
  rw [first.eq (by simp), second.eq (by simp), third.eq (by simp)] at unreferred
  simp [reference?, identifier] at unreferred

theorem closing?_none_of_demotes {paired : List Lexeme}
    (demotes : List.Forall₂ Lexeme.Demotes input paired) (unclosed : closing? input = none) :
    closing? paired = none := by
  refine Option.eq_none_iff_forall_ne_some.mpr fun ⟨span, behind⟩ closes => ?_
  obtain ⟨_, _, -, rfl⟩ := closing?_shape closes
  simp only [List.forall₂_cons_right_iff] at demotes
  obtain ⟨_, _, first, ⟨_, _, second, -, rfl⟩, rfl⟩ := demotes
  rw [first.eq (by simp), second.eq (by simp)] at unclosed
  simp [closing?] at unclosed

/-! ## How many openings are pending -/

/-- How many openings are pending at each opening that the pairing meets. -/
def pendingAtOpenings (pending : Nat) (input : List Lexeme) : List Nat :=
  match _opening : opening? input with
  | some (_, rest) =>
      pending :: pendingAtOpenings (if pending < maxCallDepth then pending + 1 else pending) rest
  | none =>
      match _reference : reference? input with
      | some (_, _, rest) => pendingAtOpenings pending rest
      | none =>
          match _closing : closing? input, pending with
          | some (_, rest), outer + 1 => pendingAtOpenings outer rest
          | _, _ =>
              match input with
              | [] => []
              | _ :: rest => pendingAtOpenings pending rest
termination_by input.length
decreasing_by
  · have := length_of_opening? _opening; omega
  · have := length_of_reference? _reference; omega
  · have := length_of_closing? _closing; omega
  · simp

/-- No opening is met while as many openings are pending as may be. -/
def StaysShallow (pending : Nat) (input : List Lexeme) : Prop :=
  ∀ count ∈ pendingAtOpenings pending input, count < maxCallDepth

theorem staysShallow_opening (opens : opening? input = some (found, rest)) :
    StaysShallow pending input ↔ pending < maxCallDepth ∧ StaysShallow (pending + 1) rest := by
  unfold StaysShallow
  rw [pendingAtOpenings]
  split
  · next same =>
    rw [opens] at same
    obtain ⟨rfl, rfl⟩ := same
    by_cases shallow : pending < maxCallDepth <;> simp [shallow]
  · simp_all

theorem staysShallow_reference (refers : reference? input = some (name, span, rest)) :
    StaysShallow pending input ↔ StaysShallow pending rest := by
  have unopened := opening?_of_reference? refers
  unfold StaysShallow
  rw [pendingAtOpenings]
  split
  · simp_all
  · split
    · next same =>
      rw [refers] at same
      obtain ⟨rfl, rfl, rfl⟩ := same
      rfl
    · simp_all

theorem staysShallow_closing (closes : closing? input = some (span, rest)) :
    StaysShallow (pending + 1) input ↔ StaysShallow pending rest := by
  have unopened := opening?_of_closing? closes
  have unreferred := reference?_of_closing? closes
  unfold StaysShallow
  rw [pendingAtOpenings]
  split
  · simp_all
  · split
    · simp_all
    · split
      · next same counted =>
        rw [closes] at same
        obtain ⟨rfl, rfl⟩ := same
        cases counted
        rfl
      · simp_all

theorem staysShallow_single (unopened : opening? (first :: rest) = none)
    (unreferred : reference? (first :: rest) = none)
    (unclosed : closing? (first :: rest) = none ∨ pending = 0) :
    StaysShallow pending (first :: rest) ↔ StaysShallow pending rest := by
  unfold StaysShallow
  rw [pendingAtOpenings]
  split
  · simp_all
  · split
    · simp_all
    · split
      · simp_all
      · rfl

end CreatureNaming.Pattern
