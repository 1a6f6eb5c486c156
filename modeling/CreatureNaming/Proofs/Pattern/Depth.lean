import CreatureNaming.Proofs.Pattern.PairedTree
import CreatureNaming.Proofs.Pattern.Run
import CreatureNaming.Proofs.Pattern.Written

/-! How deep a place of a pattern lies.

A call holds a place if it opens before the place and closes behind it. So, wherever the pairing
comes by, the depth is not the number of openings that are pending there, but the number of those
among them that will be closed. The limit of pending openings is a limit of depth only where none of
them is left open.
-/

set_option autoImplicit false

namespace CreatureNaming.Pattern

variable {pending count place start stop : Nat} {input rest here later : List Lexeme}
  {found : Opening} {name : String} {span : Span} {first : Lexeme} {text : List Char}
  {done nodes : List Node} {arguments : List (List Node)}

/-! ## Depths in a tree -/

mutual

/-- How many calls, one inside another, hold a byte behind their first one. -/
def Node.depthAt (place : Nat) : Node → Nat
  | .call span _ _ arguments =>
      if span.start < place ∧ place < span.stop then argumentsDepthAt place arguments + 1 else 0
  | _ => 0

def argumentsDepthAt (place : Nat) : List (List Node) → Nat
  | [] => 0
  | nodes :: rest => max (depthAt place nodes) (argumentsDepthAt place rest)

def depthAt (place : Nat) : List Node → Nat
  | [] => 0
  | node :: rest => max (node.depthAt place) (depthAt place rest)

end

@[simp] theorem depthAt_literal_cons (place : Nat) (span : Span) (text : String)
    (rest : List Node) : depthAt place (.literal span text :: rest) = depthAt place rest :=
  Nat.zero_max _

@[simp] theorem depthAt_token_cons (place : Nat) (span : Span) (name : String)
    (rest : List Node) : depthAt place (.token span name :: rest) = depthAt place rest :=
  Nat.zero_max _

theorem depthAt_call_inside {nameSpan : Span} (rest : List Node)
    (inside : span.start < place ∧ place < span.stop) :
    depthAt place (.call span nameSpan name arguments :: rest) =
      max (argumentsDepthAt place arguments + 1) (depthAt place rest) := by
  rw [depthAt, Node.depthAt, if_pos inside]

theorem depthAt_call_outside {nameSpan : Span} (rest : List Node)
    (outside : place ≤ span.start ∨ span.stop ≤ place) :
    depthAt place (.call span nameSpan name arguments :: rest) = depthAt place rest := by
  rw [depthAt, Node.depthAt, if_neg (by omega), Nat.zero_max]

theorem depthAt_append (place : Nat) (before after : List Node) :
    depthAt place (before ++ after) = max (depthAt place before) (depthAt place after) := by
  induction before with
  | nil => simp [depthAt]
  | cons node rest ih => rw [List.cons_append, depthAt, depthAt, ih, Nat.max_assoc]

theorem depthAt_reverse (place : Nat) (nodes : List Node) :
    depthAt place nodes.reverse = depthAt place nodes := by
  induction nodes with
  | nil => rfl
  | cons node rest ih =>
    rw [List.reverse_cons, depthAt_append, ih, Nat.max_comm]
    simp [depthAt]

theorem depthAt_literals (place : Nat) (lexemes : List Lexeme) :
    depthAt place (lexemes.map Lexeme.toNode) = 0 := by
  induction lexemes with
  | nil => rfl
  | cons first rest ih => rw [List.map_cons, Lexeme.toNode, depthAt_literal_cons, ih]

/-- Only tokens and calls have a depth. -/
theorem depthAt_built (place : Nat) (nodes : List Node) :
    depthAt place (built nodes) = depthAt place nodes := by
  induction nodes with
  | nil => rfl
  | cons node rest ih =>
    cases node with
    | literal span text =>
      rw [depthAt_literal_cons, ← ih]
      rfl
    | token span name =>
      rw [depthAt_token_cons, ← ih]
      exact depthAt_token_cons place span name _
    | call span nameSpan name arguments =>
      rw [depthAt, ← ih]
      rfl

theorem depthAt_mergeLiterals (place : Nat) (nodes : List Node) :
    depthAt place (mergeLiterals nodes) = depthAt place nodes := by
  rw [← depthAt_built, built_mergeLiterals, depthAt_built]

theorem depthAt_argument (place : Nat) (nodes : List Node) :
    depthAt place (argument nodes.reverse) = depthAt place nodes := by
  rw [← depthAt_built, built_argument, depthAt_built, depthAt_reverse]

/-! ## Within a call -/

/-- The place to which the pairing comes is behind a call, or the arguments are deeper there than
`done`, by the pending openings that will be closed and are not yet pending at the call. -/
def DeeperAt (pending : Nat) (done : List Node) (arguments : List (List Node)) (stop : Nat)
    (rest : List Lexeme) (count : Nat) (first : Lexeme) (later : List Lexeme) : Prop :=
  Meets pending rest count (first :: later) ∨
    first.span.start < stop ∧
      (pairFrom pending rest).2 < (pairFrom count (first :: later)).2 ∧
      argumentsDepthAt first.span.start arguments =
        max (depthAt first.span.start done)
          ((pairFrom count (first :: later)).2 - ((pairFrom pending rest).2 + 1))

/-- How deep the arguments are that were read behind the pairing; where `done` ends, they are as
deep as `done`. -/
structure Deepens (pending : Nat) (done : List Node) (start : Nat) (input : List Lexeme)
    (arguments : List (List Node)) (stop : Nat) (rest : List Lexeme) : Prop where
  room : start < stop
  spelled : ∃ later, Spelled stop rest later
  before : ∀ place ≤ start, argumentsDepthAt place arguments = depthAt place done
  within : ∀ count first later, Meets (pending + 1) input count (first :: later) →
    DeeperAt pending done arguments stop rest count first later

/-- At the start of the input all openings are pending at the call, so only what lies behind the
next step of the pairing matters. -/
theorem Deepens.behind {next : Nat} {onward : List Lexeme}
    (paired : ArgumentsPaired pending done input arguments stop rest)
    (spelled : Spelled start input text) (room : start < stop)
    (spelledBehind : ∃ later, Spelled stop rest later)
    (before : ∀ place ≤ start, argumentsDepthAt place arguments = depthAt place done)
    (step : pairingStep? (pending + 1) input = some (next, onward))
    (within : ∀ count first later, Meets next onward count (first :: later) →
      DeeperAt pending done arguments stop rest count first later) :
    Deepens pending done start input arguments stop rest := by
  refine ⟨room, spelledBehind, before, fun count first later meets => ?_⟩
  rcases meets.cases_step step with ⟨rfl, rfl⟩ | meets
  · have closed := paired.closed
    refine .inr ⟨by rwa [spelled.span_start], by omega, ?_⟩
    rw [closed, Nat.sub_self, Nat.max_zero]
    exact before _ (Nat.le_of_eq spelled.span_start)
  · exact within count first later meets

/-- A step that opens and closes no call. -/
theorem Deepens.step {onward : List Lexeme} {others : List Node} {separated : List (List Node)}
    (paired : ArgumentsPaired pending done input arguments stop rest)
    (spelled : Spelled start input text)
    (step : pairingStep? (pending + 1) input = some (pending + 1, onward))
    (adds : ∀ place inner, argumentsDepthAt place separated = max (depthAt place others) inner →
      argumentsDepthAt place arguments = max (depthAt place done) inner)
    (deepens : ∀ start text, Spelled start onward text →
      Deepens pending others start onward separated stop rest) :
    Deepens pending done start input arguments stop rest := by
  obtain ⟨place, later, after, further⟩ := (pairingStep?_cases step).spelled spelled
  obtain ⟨room, spelledBehind, before, within⟩ := deepens place later further
  refine .behind paired spelled (by omega) spelledBehind (fun other le => ?_) step
    fun count first later meets => ?_
  · rw [adds other 0 (by rw [before other (by omega), Nat.max_zero]), Nat.max_zero]
  · refine (within count first later meets).imp_right fun ⟨inside, closes, depth⟩ => ?_
    exact ⟨inside, closes, adds _ _ depth⟩

theorem Deepens.closing (spelled : Spelled start input text)
    (closes : closing? input = some (span, rest)) :
    Deepens pending done start input [argument done.reverse] span.stop rest := by
  have step := pairingStep?_closing pending closes
  have paired : ArgumentsPaired pending done input _ _ rest := .closing closes
  obtain ⟨later, -, rfl, behind⟩ := spelled.closing closes
  refine .behind paired spelled (by simp) ⟨later, behind⟩ (fun place _ => ?_) step
    fun count first later meets => .inl meets
  rw [argumentsDepthAt, argumentsDepthAt, depthAt_argument, Nat.max_zero]

/-- A call among the nodes that were read. -/
theorem Deepens.call {body behind : List Lexeme} {inner : List (List Node)} {innerStop : Nat}
    (paired : ArgumentsPaired pending done input arguments stop behind)
    (goesOn : (pairFrom (pending + 1) rest).2 = (pairFrom pending behind).2 + 1)
    (spelled : Spelled start input text) (opens : opening? input = some (found, body))
    (room : pending + 1 < maxCallDepth)
    (inside : ∀ start text, Spelled start body text →
      Deepens (pending + 1) [] start body inner innerStop rest)
    (others : ∀ start text, Spelled start rest text →
      Deepens pending (.call ⟨found.start, innerStop⟩ found.nameSpan found.name inner :: done) start
        rest arguments stop behind) :
    Deepens pending done start input arguments stop behind := by
  obtain ⟨nameText, bodyText, -, starts, -, -, -, bodySpelled⟩ := spelled.opening opens
  have inside := inside _ _ bodySpelled
  obtain ⟨later, restSpelled⟩ := inside.spelled
  have others := others _ _ restSpelled
  have insideRoom := inside.room
  have othersRoom := others.room
  refine .behind paired spelled (by omega) others.spelled (fun place le => ?_)
    (pairingStep?_opening opens room) fun count first later meets => ?_
  · rw [others.before place (by omega), depthAt_call_outside _ (.inl (by rwa [starts]))]
  · have after := meets.start_le bodySpelled
    rcases inside.within count first later meets with meets | ⟨before, closes, depth⟩
    · -- Behind the inner call, which does not reach this far.
      have after := meets.start_le restSpelled
      refine (others.within count first later meets).imp_right fun ⟨before, closes, depth⟩ => ?_
      rw [depthAt_call_outside _ (.inr after)] at depth
      exact ⟨before, closes, depth⟩
    · -- Within the inner call, which adds one to the depth and one to what is closed.
      refine .inr ⟨by omega, by omega, ?_⟩
      rw [others.before _ (by omega), depthAt_call_inside _ ⟨by dsimp only; omega, before⟩, depth,
        depthAt, Nat.zero_max]
      omega

theorem ArgumentsPaired.deepens
    (paired : ArgumentsPaired pending done input arguments stop rest)
    (spelled : Spelled start input text) :
    Deepens pending done start input arguments stop rest := by
  induction paired generalizing start text with
  | closing closes => exact .closing spelled closes
  | @pipe pending done first rest behind arguments stop separates others ih =>
    obtain ⟨unopened, unreferred, unclosed⟩ := unbuilt_pipe rest separates
    refine .step (.pipe separates others) spelled
      (pairingStep?_single unopened unreferred (.inl unclosed)) (fun place inner depth => ?_)
      fun _ _ => ih
    rw [depthAt, Nat.zero_max] at depth
    rw [argumentsDepthAt, depthAt_argument, depth]
  | call opens room inside others ihInside ihOthers =>
    exact .call (.call opens room inside others) others.closed spelled opens room
      (fun _ _ => ihInside) fun _ _ => ihOthers
  | tooDeep opens deep others ih =>
    refine .step (.tooDeep opens deep others) spelled (pairingStep?_tooDeep opens deep)
      (fun place inner depth => ?_) fun _ _ => ih
    rw [depth, depthAt_append, depthAt_reverse, depthAt_literals, Nat.zero_max]
  | reference refers others ih =>
    refine .step (.reference refers others) spelled (pairingStep?_reference _ refers)
      (fun place inner depth => ?_) fun _ _ => ih
    rw [depth, depthAt_token_cons]
  | literal inside unopened unreferred unclosed others ih =>
    refine .step (.literal inside unopened unreferred unclosed others) spelled
      (pairingStep?_single unopened unreferred (.inl unclosed)) (fun place inner depth => ?_)
      fun _ _ => ih
    rw [depth, Lexeme.toNode, depthAt_literal_cons]

/-! ## The whole pattern -/

/-- How deep the nodes of an input are if it closes nothing that is pending: before the input they
have no depth, and wherever the pairing comes to stand, they are as deep as openings are pending
there that will be closed. -/
structure Descends (pending start : Nat) (input : List Lexeme) (nodes : List Node) : Prop where
  before : ∀ place ≤ start, depthAt place nodes = 0
  within : ∀ count first later, Meets pending input count (first :: later) →
    depthAt first.span.start nodes = (pairFrom count (first :: later)).2

theorem Descends.step {next : Nat} {others : List Node} (none : (pairFrom pending input).2 = 0)
    (spelled : Spelled start input text) (step : pairingStep? pending input = some (next, rest))
    (same : ∀ place, depthAt place nodes = depthAt place others)
    (descends : ∀ start text, Spelled start rest text → Descends next start rest others) :
    Descends pending start input nodes := by
  obtain ⟨place, later, after, further⟩ := (pairingStep?_cases step).spelled spelled
  obtain ⟨before, within⟩ := descends place later further
  have outside : ∀ place ≤ start, depthAt place nodes = 0 := by
    intro other le
    rw [same, before other (by omega)]
  refine ⟨outside, fun count first later meets => ?_⟩
  rcases meets.cases_step step with ⟨rfl, rfl⟩ | meets
  · rw [none, outside _ (Nat.le_of_eq spelled.span_start)]
  · rw [same, within count first later meets]

/-- A call, and behind it the nodes of the rest. -/
theorem Descends.call {body : List Lexeme} (none : (pairFrom pending input).2 = 0)
    (spelled : Spelled start input text) (opens : opening? input = some (found, body))
    (room : pending < maxCallDepth)
    (inside : ArgumentsPaired pending [] body arguments stop rest)
    (others : ∀ start text, Spelled start rest text → Descends pending start rest nodes) :
    Descends pending start input
      (.call ⟨found.start, stop⟩ found.nameSpan found.name arguments :: nodes) := by
  obtain ⟨nameText, bodyText, -, starts, -, -, -, bodySpelled⟩ := spelled.opening opens
  have deepens := inside.deepens bodySpelled
  obtain ⟨later, restSpelled⟩ := deepens.spelled
  have others := others _ _ restSpelled
  have insideRoom := deepens.room
  have noneBehind : (pairFrom pending rest).2 = 0 := by
    rwa [inside.closed_call opens room] at none
  have outside : ∀ place ≤ start, depthAt place
      (.call ⟨found.start, stop⟩ found.nameSpan found.name arguments :: nodes) = 0 := by
    intro place le
    rw [depthAt_call_outside _ (.inl (by rwa [starts])), others.before place (by omega)]
  refine ⟨outside, fun count first later meets => ?_⟩
  rcases meets.cases_step (pairingStep?_opening opens room) with ⟨rfl, rfl⟩ | meets
  · rw [none, outside _ (Nat.le_of_eq spelled.span_start)]
  · have after := meets.start_le bodySpelled
    rcases deepens.within count first later meets with meets | ⟨before, closes, depth⟩
    · have after := meets.start_le restSpelled
      rw [depthAt_call_outside _ (.inr after), others.within count first later meets]
    · rw [depthAt_call_inside _ ⟨by dsimp only; omega, before⟩, depth, others.before _ (by omega),
        depthAt, Nat.zero_max, Nat.max_zero]
      omega

theorem NodesPaired.descends (paired : NodesPaired pending input nodes)
    (spelled : Spelled start input text) : Descends pending start input nodes := by
  induction paired generalizing start text with
  | nil pending =>
    refine ⟨fun _ _ => rfl, fun count first later meets => ?_⟩
    cases meets.eq_nil.1
  | call opens room inside others ih =>
    have none := (NodesPaired.call opens room inside others).closed
    exact .call none spelled opens room inside fun _ _ => ih
  | unclosed opens room others ih =>
    have none := (NodesPaired.unclosed opens room others).closed
    refine .step none spelled (pairingStep?_opening opens room) (fun place => ?_) fun _ _ => ih
    rw [depthAt_append, depthAt_literals, Nat.zero_max]
  | tooDeep opens deep others ih =>
    have none := (NodesPaired.tooDeep opens deep others).closed
    refine .step none spelled (pairingStep?_tooDeep opens deep) (fun place => ?_) fun _ _ => ih
    rw [depthAt_append, depthAt_literals, Nat.zero_max]
  | reference refers others ih =>
    have none := (NodesPaired.reference refers others).closed
    refine .step none spelled (pairingStep?_reference _ refers) (fun place => ?_) fun _ _ => ih
    rw [depthAt_token_cons]
  | literal unopened unreferred unclosed others ih =>
    have none := (NodesPaired.literal unopened unreferred unclosed others).closed
    refine .step none spelled (pairingStep?_single unopened unreferred unclosed) (fun place => ?_)
      fun _ _ => ih
    rw [Lexeme.toNode, depthAt_literal_cons]

/-! ## Openings of a pattern -/

/-- An opening lies in the calls whose pending openings will be closed. -/
theorem depthAt_opening (source : String) (meets : Meets 0 (lexemes source) count here)
    (opens : opening? here = some (found, rest)) :
    depthAt found.start (parse source) = (pairFrom count here).2 := by
  obtain ⟨nodes, paired, same⟩ := exists_parse_eq source
  have descends := paired.descends (lexemesFrom_spelled 0 source.toList)
  obtain ⟨_, _, _, _, _, _, -, rfl, rfl⟩ := opening?_shape opens
  rw [same, depthAt_mergeLiterals]
  exact descends.within _ _ _ meets

theorem escaped_of_limit (meets : Meets 0 input maxCallDepth here)
    (opens : opening? here = some (found, rest)) :
    ∃ span : Span, span.start = found.start ∧ ⟨.escaped '{', span⟩ ∈ pairCalls input := by
  have suffix := meets.suffix
  rw [pairFrom_tooDeep opens (Nat.lt_irrefl _)] at suffix
  obtain ⟨_, span, _, _, _, _, -, rfl, rfl⟩ := opening?_shape opens
  exact ⟨span, rfl, suffix.mem List.mem_cons_self⟩

/-- An opening lies in as many calls as openings are pending where the pairing meets it, less those
that stay pending. So one that is turned into text at the limit is at the limit of depth just if no
opening stays pending. -/
theorem parse_depthAt_opening (source : String) {count : Nat} {here rest : List Lexeme}
    {found : Opening} (meets : Meets 0 (lexemes source) count here)
    (opens : opening? here = some (found, rest)) :
    count ≤ maxCallDepth ∧
      (count = maxCallDepth → ∃ span : Span, span.start = found.start ∧
        ⟨.escaped '{', span⟩ ∈ pairCalls (lexemes source)) ∧
      ∃ unclosed, LeavesPending count here unclosed ∧
        depthAt found.start (parse source) + unclosed = count := by
  refine ⟨meets.le (Nat.zero_le _), ?_, _, leavesPending count here, ?_⟩
  · rintro rfl
    exact escaped_of_limit meets opens
  · rw [depthAt_opening source meets opens]
    exact Nat.add_sub_cancel' (pairFrom_closed_le count here)

/-- Openings of calls that are not closed, before a text. -/
def halfTyped : Nat → List Char → List Char
  | 0, text => text
  | count + 1, text => '{' :: '{' :: '#' :: (['i', 'f'] ++ ':' :: halfTyped count text)

theorem opening?_halfTyped (count start : Nat) (text : List Char) :
    ∃ found, opening? (lexemesFrom start (halfTyped (count + 1) text)) =
      some (found, lexemesFrom (start + 6) (halfTyped count text)) := by
  have plain : ∀ c ∈ ['i', 'f'], isStructural c = false := by simp [isStructural]
  rw [halfTyped, lexemesFrom_character (c := '{') rfl, lexemesFrom_character (c := '{') rfl,
    lexemesFrom_character (c := '#') rfl, lexemesFrom_run (by simp) plain (stops_cons rfl _),
    lexemesFrom_character (c := ':') rfl]
  exact ⟨_, rfl⟩

/-- The pairing takes each opening for pending as long as there is room. -/
theorem meets_halfTyped (count pending start : Nat) (text : List Char)
    (room : pending + count ≤ maxCallDepth) :
    Meets pending (lexemesFrom start (halfTyped count text)) (pending + count)
      (lexemesFrom (start + 6 * count) text) := by
  induction count generalizing pending start with
  | zero => exact .here _ _
  | succ count ih =>
    obtain ⟨found, opens⟩ := opening?_halfTyped count start text
    have meets := ih (pending + 1) (start + 6) (by omega)
    rw [Nat.add_right_comm, Nat.add_assoc start, Nat.add_comm 6, ← Nat.mul_succ] at meets
    exact .behind (pairingStep?_opening opens (by omega)) meets

theorem meets_lexemes_halfTyped (count : Nat) (text : List Char) (room : count ≤ maxCallDepth) :
    Meets 0 (lexemes (.ofList (halfTyped count text))) count (lexemesFrom (6 * count) text) := by
  have meets := meets_halfTyped count 0 0 text (by omega)
  rwa [Nat.zero_add, Nat.zero_add, ← String.toList_ofList (l := halfTyped count text)] at meets

/-- As many openings as may be pending, two of which are closed. -/
theorem parse_depthAt_opening_twoClosed :
    let text := "\x7b\x7b#len: abc\x7d\x7d\x7d\x7d".toList
    let source := String.ofList (halfTyped maxCallDepth text)
    let here := lexemesFrom 384 text
    ∃ found rest, Meets 0 (lexemes source) maxCallDepth here ∧
      opening? here = some (found, rest) ∧
      (∃ span : Span, span.start = found.start ∧
        ⟨.escaped '{', span⟩ ∈ pairCalls (lexemes source)) ∧
      ∃ unclosed, LeavesPending maxCallDepth here unclosed ∧
        depthAt found.start (parse source) + unclosed = maxCallDepth := by
  intro text source here
  have meets : Meets 0 (lexemes source) maxCallDepth here :=
    meets_lexemes_halfTyped maxCallDepth text (Nat.le_refl _)
  have opened : (opening? here).isSome = true := by decide +kernel
  obtain ⟨⟨found, rest⟩, opens⟩ := Option.isSome_iff_exists.mp opened
  obtain ⟨-, escaped, unclosed, leaves, depth⟩ := parse_depthAt_opening source meets opens
  exact ⟨found, rest, meets, opens, escaped rfl, unclosed, leaves, depth⟩

/-- As many openings as may be pending, and then a complete call. Its opening is turned into text
at the limit, but it lies in one call only, the one that takes its closing. -/
theorem parse_depthAt_halfTyped :
    let text := "\x7b\x7b#len: abc\x7d\x7d".toList
    let source := String.ofList (halfTyped maxCallDepth text)
    let here := lexemesFrom 384 text
    ∃ found rest, Meets 0 (lexemes source) maxCallDepth here ∧
      opening? here = some (found, rest) ∧ pairCalls here = here ∧
      (∃ span : Span, span.start = found.start ∧
        ⟨.escaped '{', span⟩ ∈ pairCalls (lexemes source)) ∧
      depthAt found.start (parse source) = 1 := by
  intro text source here
  have meets : Meets 0 (lexemes source) maxCallDepth here :=
    meets_lexemes_halfTyped maxCallDepth text (Nat.le_refl _)
  have opened : (opening? here).isSome = true := by decide +kernel
  obtain ⟨⟨found, rest⟩, opens⟩ := Option.isSome_iff_exists.mp opened
  have alone : pairCalls here = here := by decide +kernel
  have closed : (pairFrom maxCallDepth here).2 = 1 := by decide +kernel
  have depth := depthAt_opening source meets opens
  exact ⟨found, rest, meets, opens, alone, escaped_of_limit meets opens, depth.trans closed⟩

end CreatureNaming.Pattern
