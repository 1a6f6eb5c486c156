import CreatureNaming.Proofs.Pattern.Settled
import CreatureNaming.Proofs.Pattern.Spelling

/-! The run of the pairing.

The pairing goes through an input step by step, and at each place it knows how many openings are
pending. What a step can do is said once; the places to which a run comes, and how many openings
stay pending at its end, follow from the steps.
-/

set_option autoImplicit false

namespace CreatureNaming.Pattern

variable {pending count next start stop : Nat} {input rest here middle later : List Lexeme}
  {found : Opening} {name : String} {span : Span} {first : Lexeme} {text : List Char}
  {done : List Node} {arguments : List (List Node)}

/-! ## Steps -/

theorem Spelled.span_start (spelled : Spelled start (first :: rest) text) :
    first.span.start = start := by
  cases spelled with
  | cons raw range spells others => rw [range]

theorem Spelled.tail (spelled : Spelled start (first :: rest) text) :
    ∃ behind later, start < behind ∧ Spelled behind rest later := by
  cases spelled with
  | cons raw range spells others =>
    have size := Text.byteLength_pos spells.ne_nil
    exact ⟨_, _, by omega, others⟩

/-- One step of the pairing: how many openings are pending behind it, and what is left. -/
def pairingStep? (pending : Nat) (input : List Lexeme) : Option (Nat × List Lexeme) :=
  match opening? input with
  | some (_, rest) => some (if pending < maxCallDepth then pending + 1 else pending, rest)
  | none =>
      match reference? input with
      | some (_, _, rest) => some (pending, rest)
      | none =>
          match closing? input, pending with
          | some (_, rest), outer + 1 => some (outer, rest)
          | _, _ =>
              match input with
              | [] => none
              | _ :: rest => some (pending, rest)

/-- The pairing comes from an input with `pending` openings to another place with `count`. -/
inductive Meets : Nat → List Lexeme → Nat → List Lexeme → Prop where
  | here (pending : Nat) (input : List Lexeme) : Meets pending input pending input
  | behind {pending next count : Nat} {input rest here : List Lexeme}
      (step : pairingStep? pending input = some (next, rest)) (meets : Meets next rest count here) :
      Meets pending input count here

theorem pairingStep?_nil (pending : Nat) : pairingStep? pending [] = none := by
  cases pending <;> rfl

theorem pairingStep?_opening (opens : opening? input = some (found, rest))
    (room : pending < maxCallDepth) : pairingStep? pending input = some (pending + 1, rest) := by
  simp [pairingStep?, opens, room]

theorem pairingStep?_tooDeep (opens : opening? input = some (found, rest))
    (deep : ¬pending < maxCallDepth) : pairingStep? pending input = some (pending, rest) := by
  simp [pairingStep?, opens, deep]

theorem pairingStep?_reference (pending : Nat)
    (refers : reference? input = some (name, span, rest)) :
    pairingStep? pending input = some (pending, rest) := by
  simp [pairingStep?, opening?_of_reference? refers, refers]

theorem pairingStep?_closing (pending : Nat) (closes : closing? input = some (span, rest)) :
    pairingStep? (pending + 1) input = some (pending, rest) := by
  simp [pairingStep?, opening?_of_closing? closes, reference?_of_closing? closes, closes]

theorem pairingStep?_single (unopened : opening? (first :: rest) = none)
    (unreferred : reference? (first :: rest) = none)
    (unclosed : closing? (first :: rest) = none ∨ pending = 0) :
    pairingStep? pending (first :: rest) = some (pending, rest) := by
  rcases unclosed with unclosed | rfl
  · simp [pairingStep?, unopened, unreferred, unclosed]
  · simp [pairingStep?, unopened, unreferred]

/-- What a step of the pairing can do. -/
inductive PairingStep : Nat → List Lexeme → Nat → List Lexeme → Prop where
  | opening {pending : Nat} {input rest : List Lexeme} {found : Opening}
      (opens : opening? input = some (found, rest)) (room : pending < maxCallDepth) :
      PairingStep pending input (pending + 1) rest
  | tooDeep {pending : Nat} {input rest : List Lexeme} {found : Opening}
      (opens : opening? input = some (found, rest)) (deep : ¬pending < maxCallDepth) :
      PairingStep pending input pending rest
  | reference {pending : Nat} {input rest : List Lexeme} {name : String} {span : Span}
      (refers : reference? input = some (name, span, rest)) :
      PairingStep pending input pending rest
  | closing {outer : Nat} {input rest : List Lexeme} {span : Span}
      (closes : closing? input = some (span, rest)) : PairingStep (outer + 1) input outer rest
  | single {pending : Nat} {first : Lexeme} {rest : List Lexeme}
      (unopened : opening? (first :: rest) = none)
      (unreferred : reference? (first :: rest) = none)
      (unclosed : closing? (first :: rest) = none ∨ pending = 0) :
      PairingStep pending (first :: rest) pending rest

theorem pairingStep?_cases (step : pairingStep? pending input = some (next, rest)) :
    PairingStep pending input next rest := by
  induction pending, input using pairing_induction with
  | nothing pending => cases (pairingStep?_nil pending).symm.trans step
  | opening pending input found body opens ih =>
    by_cases room : pending < maxCallDepth
    · cases (pairingStep?_opening opens room).symm.trans step
      exact .opening opens room
    · cases (pairingStep?_tooDeep opens room).symm.trans step
      exact .tooDeep opens room
  | reference pending input name span behind refers ih =>
    cases (pairingStep?_reference pending refers).symm.trans step
    exact .reference refers
  | closing outer input span behind closes ih =>
    cases (pairingStep?_closing outer closes).symm.trans step
    exact .closing closes
  | single pending first behind unopened unreferred unclosed ih =>
    cases (pairingStep?_single unopened unreferred unclosed).symm.trans step
    exact .single unopened unreferred unclosed

/-- A step goes on behind the place where it is taken. -/
theorem PairingStep.spelled (step : PairingStep pending input next rest)
    (spelled : Spelled start input text) :
    ∃ behind later, start < behind ∧ Spelled behind rest later := by
  cases step with
  | opening opens room =>
    obtain ⟨nameText, later, -, -, -, -, -, behind⟩ := spelled.opening opens
    exact ⟨_, later, by omega, behind⟩
  | tooDeep opens deep =>
    obtain ⟨nameText, later, -, -, -, -, -, behind⟩ := spelled.opening opens
    exact ⟨_, later, by omega, behind⟩
  | reference refers =>
    obtain ⟨later, -, -, -, behind⟩ := spelled.reference refers
    exact ⟨_, later, by omega, behind⟩
  | closing closes =>
    obtain ⟨later, -, -, behind⟩ := spelled.closing closes
    exact ⟨_, later, by omega, behind⟩
  | single => exact spelled.tail

theorem PairingStep.le (step : PairingStep pending input next rest)
    (le : pending ≤ maxCallDepth) : next ≤ maxCallDepth := by
  cases step with
  | opening opens room => exact room
  | closing closes => exact Nat.le_of_succ_le le
  | tooDeep | reference | single => exact le

/-- What is paired behind a step stands at the end of what is paired before it. -/
theorem PairingStep.suffix (step : PairingStep pending input next rest) :
    (pairFrom next rest).1 <:+ (pairFrom pending input).1 := by
  cases step with
  | opening opens room =>
    rw [pairFrom_opening opens room]
    split <;> exact List.suffix_append _ _
  | tooDeep opens deep =>
    rw [pairFrom_tooDeep opens deep]
    exact List.suffix_append _ _
  | reference refers =>
    rw [pairFrom_reference _ refers]
    exact List.suffix_append _ _
  | closing closes =>
    rw [pairFrom_closing _ closes]
    exact List.suffix_append _ _
  | single unopened unreferred unclosed =>
    rw [pairFrom_single unopened unreferred unclosed]
    exact List.suffix_cons _ _

/-! ## Runs -/

theorem Meets.cases_step (meets : Meets pending input count here)
    (step : pairingStep? pending input = some (next, rest)) :
    (count = pending ∧ here = input) ∨ Meets next rest count here := by
  cases meets with
  | here => exact .inl ⟨rfl, rfl⟩
  | behind taken meets =>
    rw [step] at taken
    cases taken
    exact .inr meets

theorem Meets.start_le (meets : Meets pending input count (first :: later))
    (spelled : Spelled start input text) : start ≤ first.span.start := by
  generalize met : first :: later = here at meets
  induction meets generalizing start text with
  | here pending input =>
    subst met
    exact Nat.le_of_eq spelled.span_start.symm
  | behind step meets ih =>
    obtain ⟨behind, next, after, spelled⟩ := (pairingStep?_cases step).spelled spelled
    exact Nat.le_trans (Nat.le_of_lt after) (ih spelled met)

theorem Meets.le (meets : Meets pending input count here) (le : pending ≤ maxCallDepth) :
    count ≤ maxCallDepth := by
  induction meets with
  | here => exact le
  | behind step meets ih => exact ih ((pairingStep?_cases step).le le)

theorem Meets.suffix (meets : Meets pending input count here) :
    (pairFrom count here).1 <:+ (pairFrom pending input).1 := by
  induction meets with
  | here => exact List.suffix_rfl
  | behind step meets ih => exact ih.trans (pairingStep?_cases step).suffix

theorem Meets.trans (first : Meets pending input next middle)
    (second : Meets next middle count here) : Meets pending input count here := by
  induction first with
  | here => exact second
  | behind step meets ih => exact .behind step (ih second)

theorem Meets.step (step : pairingStep? pending input = some (count, here)) :
    Meets pending input count here :=
  .behind step (.here count here)

theorem Meets.eq_nil (meets : Meets pending [] count here) : here = [] ∧ count = pending := by
  cases meets with
  | here => exact ⟨rfl, rfl⟩
  | behind step => cases (pairingStep?_nil pending).symm.trans step

/-- Where a run comes by, it goes on to the end of the input. -/
theorem Meets.goesOn (meets : Meets pending input next middle)
    (ends : Meets pending input count []) : Meets next middle count [] := by
  induction meets with
  | here => exact ends
  | behind step meets ih =>
    rcases ends.cases_step step with ⟨-, nothing⟩ | ends
    · subst nothing
      cases (pairingStep?_nil _).symm.trans step
    · exact ih ends

/-- The pairing goes through the arguments of a call, and then the call is closed. -/
theorem ArgumentsPaired.meets (paired : ArgumentsPaired pending done input arguments stop rest) :
    Meets (pending + 1) input pending rest := by
  induction paired with
  | closing closes => exact .step (pairingStep?_closing _ closes)
  | pipe separates others ih =>
    obtain ⟨unopened, unreferred, unclosed⟩ := unbuilt_pipe _ separates
    exact .behind (pairingStep?_single unopened unreferred (.inl unclosed)) ih
  | call opens room inside others ihInside ihOthers =>
    exact .behind (pairingStep?_opening opens room) (ihInside.trans ihOthers)
  | tooDeep opens deep others ih => exact .behind (pairingStep?_tooDeep opens deep) ih
  | reference refers others ih => exact .behind (pairingStep?_reference _ refers) ih
  | literal inside unopened unreferred unclosed others ih =>
    exact .behind (pairingStep?_single unopened unreferred (.inl unclosed)) ih

/-! ## Openings that stay pending -/

/-- The pairing of an input comes to a place where `fewest` openings are pending, and to none where
fewer are. -/
def LeavesPending (pending : Nat) (input : List Lexeme) (fewest : Nat) : Prop :=
  (∃ behind, Meets pending input fewest behind) ∧
    ∀ count behind, Meets pending input count behind → fewest ≤ count

theorem LeavesPending.step {fewest : Nat}
    (step : pairingStep? pending input = some (next, rest)) (le : fewest ≤ pending)
    (leaves : LeavesPending next rest fewest) : LeavesPending pending input fewest := by
  obtain ⟨⟨behind, reached⟩, least⟩ := leaves
  refine ⟨⟨behind, .behind step reached⟩, fun count behind meets => ?_⟩
  rcases meets.cases_step step with ⟨rfl, rfl⟩ | meets
  · exact le
  · exact least count behind meets

/-- The pairing closes the openings that do not stay pending. -/
theorem leavesPending (pending : Nat) (input : List Lexeme) :
    LeavesPending pending input (pending - (pairFrom pending input).2) := by
  induction pending, input using pairing_induction with
  | nothing pending =>
    rw [pairFrom_nil]
    refine ⟨⟨[], .here pending []⟩, fun count behind meets => ?_⟩
    rw [meets.eq_nil.2]
    exact Nat.le_refl _
  | opening pending input found rest opens ih =>
    by_cases room : pending < maxCallDepth
    · have leaves := ih (pending + 1) rest (Nat.le_refl _)
      have step := pairingStep?_opening opens room
      rw [pairFrom_opening opens room]
      split
      · -- What is left pending behind the opening includes the opening itself.
        next unclosed =>
        rw [unclosed] at leaves
        refine ⟨⟨input, .here pending input⟩, fun count behind meets => ?_⟩
        rcases meets.cases_step step with ⟨rfl, -⟩ | meets
        · exact Nat.le_refl _
        · exact Nat.le_of_succ_le (leaves.2 count behind meets)
      · next closed =>
        have same : pending - ((pairFrom (pending + 1) rest).2 - 1) =
            pending + 1 - (pairFrom (pending + 1) rest).2 := by omega
        rw [same]
        exact leaves.step step (by omega)
    · rw [pairFrom_tooDeep opens room]
      exact (ih pending rest (Nat.le_refl _)).step (pairingStep?_tooDeep opens room)
        (Nat.sub_le _ _)
  | reference pending input name span rest refers ih =>
    rw [pairFrom_reference pending refers]
    exact (ih pending rest (Nat.le_refl _)).step (pairingStep?_reference pending refers)
      (Nat.sub_le _ _)
  | closing outer input span rest closes ih =>
    rw [pairFrom_closing outer closes, Nat.add_sub_add_right]
    exact (ih outer rest (Nat.le_refl _)).step (pairingStep?_closing outer closes) (by omega)
  | single pending first rest unopened unreferred unclosed ih =>
    rw [pairFrom_single unopened unreferred unclosed]
    exact (ih pending rest (Nat.le_refl _)).step (pairingStep?_single unopened unreferred unclosed)
      (Nat.sub_le _ _)

end CreatureNaming.Pattern
