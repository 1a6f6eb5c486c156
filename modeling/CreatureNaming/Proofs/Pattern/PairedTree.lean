import CreatureNaming.Proofs.Pattern.Derivations
import CreatureNaming.Proofs.Pattern.Settled

/-! The tree of a pattern, by what stands in the pattern before the pairing.

As with the arguments of a pending call, how a whole input is read behind the pairing is said once.
An opening that will not be closed counts as pending for what follows it, but is read as text. What
holds of a tree can then be shown piece by piece: for a lexeme that is text, for a token, and for a
call if it holds of the pieces of its arguments.
-/

set_option autoImplicit false

namespace CreatureNaming.Pattern

/-- The nodes of an input, as they are read behind the pairing; `pending` openings are pending
before the input, and it closes none of them. -/
inductive NodesPaired : Nat → List Lexeme → List Node → Prop where
  | nil (pending : Nat) : NodesPaired pending [] []
  | call {pending : Nat} {input body rest : List Lexeme} {found : Opening}
      {arguments : List (List Node)} {stop : Nat} {nodes : List Node}
      (opens : opening? input = some (found, body)) (room : pending < maxCallDepth)
      (inside : ArgumentsPaired pending [] body arguments stop rest)
      (others : NodesPaired pending rest nodes) :
      NodesPaired pending input
        (.call ⟨found.start, stop⟩ found.nameSpan found.name arguments :: nodes)
  | unclosed {pending : Nat} {input rest : List Lexeme} {found : Opening} {nodes : List Node}
      (opens : opening? input = some (found, rest)) (room : pending < maxCallDepth)
      (others : NodesPaired (pending + 1) rest nodes) :
      NodesPaired pending input ((input.take 5).map Lexeme.toNode ++ nodes)
  | tooDeep {pending : Nat} {input rest : List Lexeme} {found : Opening} {nodes : List Node}
      (opens : opening? input = some (found, rest)) (deep : ¬pending < maxCallDepth)
      (others : NodesPaired pending rest nodes) :
      NodesPaired pending input ((input.take 5).map Lexeme.toNode ++ nodes)
  | reference {pending : Nat} {input rest : List Lexeme} {name : String} {span : Span}
      {nodes : List Node} (refers : reference? input = some (name, span, rest))
      (others : NodesPaired pending rest nodes) :
      NodesPaired pending input (.token span name :: nodes)
  | literal {pending : Nat} {first : Lexeme} {rest : List Lexeme} {nodes : List Node}
      (unopened : opening? (first :: rest) = none)
      (unreferred : reference? (first :: rest) = none)
      (unclosed : closing? (first :: rest) = none ∨ pending = 0)
      (others : NodesPaired pending rest nodes) :
      NodesPaired pending (first :: rest) (first.toNode :: nodes)

variable {pending stop : Nat} {input rest whole : List Lexeme} {done nodes : List Node}
  {arguments : List (List Node)} {found : Opening} {name : String} {span : Span} {first : Lexeme}

theorem NodesPaired.closed (paired : NodesPaired pending input nodes) :
    (pairFrom pending input).2 = 0 := by
  induction paired with
  | nil pending => rw [pairFrom_nil]
  | call opens room inside others ih => rw [inside.closed_call opens room, ih]
  | unclosed opens room others ih => rw [pairFrom_opening opens room, if_pos ih]
  | tooDeep opens deep others ih =>
    rw [pairFrom_tooDeep opens deep]
    exact ih
  | reference refers others ih =>
    rw [pairFrom_reference _ refers]
    exact ih
  | literal unopened unreferred unclosed others ih =>
    rw [pairFrom_single unopened unreferred unclosed]
    exact ih

/-- Reading follows the derivation behind the pairing. -/
theorem NodesPaired.read (paired : NodesPaired pending input nodes) :
    nodesFrom (pairFrom pending input).1 = nodes := by
  induction paired with
  | nil pending => rw [pairFrom_nil, nodesFrom_nil]
  | call opens room inside others ih =>
    rw [nodesFrom_call (readCall?_pairFrom opens room inside inside.read), ih]
  | unclosed opens room others ih =>
    rw [pairFrom_opening opens room, if_pos others.closed, nodesFrom_escaped opens, ih]
  | tooDeep opens deep others ih =>
    rw [pairFrom_tooDeep opens deep, nodesFrom_escaped opens, ih]
  | reference refers others ih =>
    rw [pairFrom_reference _ refers, nodesFrom_reference (reference?_take refers _), ih]
  | literal unopened unreferred unclosed others ih =>
    obtain ⟨unopenedStill, unreferredStill, -⟩ := unbuilt_paired _ unopened unreferred
    rw [pairFrom_single unopened unreferred unclosed,
      nodesFrom_literal (readCall?_none unopenedStill) unreferredStill, ih]
    rfl

/-- If the pairing closes none of the pending openings, there is a derivation. -/
theorem nodesPaired (pending : Nat) (input : List Lexeme)
    (closed : (pairFrom pending input).2 = 0) : ∃ nodes, NodesPaired pending input nodes := by
  induction pending, input using pairing_induction with
  | nothing pending => exact ⟨[], .nil pending⟩
  | opening pending input found rest opens ih =>
    by_cases room : pending < maxCallDepth
    · by_cases unclosed : (pairFrom (pending + 1) rest).2 = 0
      · obtain ⟨nodes, others⟩ := ih _ rest (Nat.le_refl _) unclosed
        exact ⟨_, .unclosed opens room others⟩
      · obtain ⟨arguments, stop, behind, inside⟩ := argumentsPaired pending [] rest unclosed
        rw [inside.closed_call opens room] at closed
        obtain ⟨nodes, others⟩ := ih _ behind (Nat.le_of_lt inside.length) closed
        exact ⟨_, .call opens room inside others⟩
    · rw [pairFrom_tooDeep opens room] at closed
      obtain ⟨nodes, others⟩ := ih _ rest (Nat.le_refl _) closed
      exact ⟨_, .tooDeep opens room others⟩
  | reference pending input name span rest refers ih =>
    rw [pairFrom_reference _ refers] at closed
    obtain ⟨nodes, others⟩ := ih _ rest (Nat.le_refl _) closed
    exact ⟨_, .reference refers others⟩
  | closing outer input span rest closes ih =>
    rw [pairFrom_closing outer closes] at closed
    cases closed
  | single pending first rest unopened unreferred unclosed ih =>
    rw [pairFrom_single unopened unreferred unclosed] at closed
    obtain ⟨nodes, others⟩ := ih _ rest (Nat.le_refl _) closed
    exact ⟨_, .literal unopened unreferred unclosed others⟩

theorem NodesPaired.parse {source : String} (paired : NodesPaired 0 (lexemes source) nodes) :
    parse source = mergeLiterals nodes :=
  congrArg mergeLiterals paired.read

theorem exists_parse_eq (source : String) :
    ∃ nodes, NodesPaired 0 (lexemes source) nodes ∧ parse source = mergeLiterals nodes := by
  obtain ⟨nodes, paired⟩ :=
    nodesPaired 0 (lexemes source) (Nat.le_zero.mp (pairFrom_closed_le 0 _))
  exact ⟨nodes, paired, paired.parse⟩

/-! ## What lies within a derivation -/

theorem suffix_of_opening? (opens : opening? input = some (found, rest)) : rest <:+ input := by
  obtain ⟨_, _, _, _, _, _, -, -, rfl⟩ := opening?_shape opens
  exact ⟨[_, _, _, _, _], rfl⟩

theorem suffix_of_reference? (refers : reference? input = some (name, span, rest)) :
    rest <:+ input := by
  obtain ⟨_, _, _, -, -, rfl⟩ := reference?_shape refers
  exact ⟨[_, _, _], rfl⟩

/-- The arguments of a call end with a closing brace. -/
theorem ArgumentsPaired.consumed
    (paired : ArgumentsPaired pending done input arguments stop rest) :
    ∃ before last, input = before ++ last :: rest ∧ last.kind = .braceClose ∧
      last.span.stop = stop := by
  -- What has been read before goes in front of what the next step reads.
  have within {input later rest : List Lexeme} {stop : Nat} (suffix : later <:+ input)
      (ends : ∃ before last, later = before ++ last :: rest ∧ last.kind = .braceClose ∧
        last.span.stop = stop) :
      ∃ before last, input = before ++ last :: rest ∧ last.kind = .braceClose ∧
        last.span.stop = stop := by
    obtain ⟨front, rfl⟩ := suffix
    obtain ⟨before, last, rfl, closes, stops⟩ := ends
    exact ⟨front ++ before, last, (List.append_assoc ..).symm, closes, stops⟩
  induction paired with
  | closing closes =>
    obtain ⟨first, last, rfl, rfl⟩ := closing?_shape closes
    exact ⟨[⟨.braceClose, first⟩], ⟨.braceClose, last⟩, rfl, rfl, rfl⟩
  | pipe separates others ih => exact within (List.suffix_cons _ _) ih
  | call opens room inside others ihInside ihOthers =>
    obtain ⟨before, last, rfl, -, -⟩ := ihInside
    refine within ?_ ihOthers
    exact ((List.suffix_cons _ _).trans (List.suffix_append _ _)).trans (suffix_of_opening? opens)
  | tooDeep opens deep others ih => exact within (suffix_of_opening? opens) ih
  | reference refers others ih => exact within (suffix_of_reference? refers) ih
  | literal inside unopened unreferred unclosed others ih =>
    exact within (List.suffix_cons _ _) ih

theorem ArgumentsPaired.suffix (paired : ArgumentsPaired pending done input arguments stop rest) :
    rest <:+ input := by
  obtain ⟨before, last, rfl, -, -⟩ := paired.consumed
  exact (List.suffix_cons _ _).trans (List.suffix_append _ _)

/-- Each argument is put together from pieces of which something holds. -/
def BuiltFrom (holds : Node → Prop) (arguments : List (List Node)) : Prop :=
  ∀ nodes ∈ arguments, ∃ pieces, nodes = argument pieces ∧ ∀ piece ∈ pieces, holds piece

/-- What holds of each piece of a tree, by the openings pending around it: of a lexeme that is
read as text, of a token, and of a call if it holds of the pieces of its arguments. -/
structure HoldsOfPieces (whole : List Lexeme) (holds : Nat → Node → Prop) : Prop where
  literal : ∀ pending, ∀ lexeme ∈ whole, holds pending lexeme.toNode
  token : ∀ pending span name, isIdentifier name = true → holds pending (.token span name)
  call : ∀ {pending stop : Nat} {input body rest : List Lexeme} {found : Opening}
    {arguments : List (List Node)}, input <:+ whole → opening? input = some (found, body) →
    pending < maxCallDepth → ArgumentsPaired pending [] body arguments stop rest →
    BuiltFrom (holds (pending + 1)) arguments →
    holds pending (.call ⟨found.start, stop⟩ found.nameSpan found.name arguments)

variable {holds : Nat → Node → Prop}

theorem HoldsOfPieces.reference (pieces : HoldsOfPieces whole holds) (pending : Nat)
    (refers : reference? input = some (name, span, rest)) : holds pending (.token span name) := by
  obtain ⟨_, _, _, identifier, -, -⟩ := reference?_shape refers
  exact pieces.token pending span name identifier

/-- An opening that is read as text. -/
theorem HoldsOfPieces.literals (pieces : HoldsOfPieces whole holds) (pending : Nat)
    (suffix : input <:+ whole) : ∀ node ∈ (input.take 5).map Lexeme.toNode, holds pending node := by
  rw [List.forall_mem_map]
  intro lexeme member
  exact pieces.literal pending lexeme (suffix.mem (List.mem_of_mem_take member))

theorem ArgumentsPaired.builtFrom (paired : ArgumentsPaired pending done input arguments stop rest)
    (pieces : HoldsOfPieces whole holds) (suffix : input <:+ whole)
    (before : ∀ node ∈ done, holds (pending + 1) node) :
    BuiltFrom (holds (pending + 1)) arguments := by
  have nothing (pending : Nat) : ∀ node ∈ ([] : List Node), holds pending node := by simp
  induction paired with
  | closing closes =>
    refine List.forall_mem_singleton.mpr ⟨_, rfl, fun piece member => ?_⟩
    exact before piece (List.mem_reverse.mp member)
  | pipe separates others ih =>
    refine List.forall_mem_cons.mpr ⟨⟨_, rfl, fun piece member => ?_⟩,
      ih ((List.suffix_cons _ _).trans suffix) (nothing _)⟩
    exact before piece (List.mem_reverse.mp member)
  | call opens room inside others ihInside ihOthers =>
    have bodySuffix := (suffix_of_opening? opens).trans suffix
    have inner := pieces.call suffix opens room inside (ihInside bodySuffix (nothing _))
    exact ihOthers (inside.suffix.trans bodySuffix) (List.forall_mem_cons.mpr ⟨inner, before⟩)
  | tooDeep opens deep others ih =>
    refine ih ((suffix_of_opening? opens).trans suffix) (List.forall_mem_append.mpr ⟨?_, before⟩)
    exact fun node member => pieces.literals _ suffix node (List.mem_reverse.mp member)
  | reference refers others ih =>
    exact ih ((suffix_of_reference? refers).trans suffix)
      (List.forall_mem_cons.mpr ⟨pieces.reference _ refers, before⟩)
  | literal inside unopened unreferred unclosed others ih =>
    exact ih ((List.suffix_cons _ _).trans suffix)
      (List.forall_mem_cons.mpr ⟨pieces.literal _ _ (suffix.mem List.mem_cons_self), before⟩)

theorem NodesPaired.forall_holds (paired : NodesPaired pending input nodes)
    (pieces : HoldsOfPieces whole holds) (suffix : input <:+ whole) :
    ∀ node ∈ nodes, ∃ count, holds count node := by
  induction paired with
  | nil pending => simp
  | call opens room inside others ih =>
    have bodySuffix := (suffix_of_opening? opens).trans suffix
    have built := inside.builtFrom pieces bodySuffix (by simp)
    exact List.forall_mem_cons.mpr ⟨⟨_, pieces.call suffix opens room inside built⟩,
      ih (inside.suffix.trans bodySuffix)⟩
  | @unclosed pending input rest found nodes opens room others ih =>
    exact List.forall_mem_append.mpr
      ⟨fun node member => ⟨pending, pieces.literals _ suffix node member⟩,
        ih ((suffix_of_opening? opens).trans suffix)⟩
  | @tooDeep pending input rest found nodes opens deep others ih =>
    exact List.forall_mem_append.mpr
      ⟨fun node member => ⟨pending, pieces.literals _ suffix node member⟩,
        ih ((suffix_of_opening? opens).trans suffix)⟩
  | @reference pending input rest name span nodes refers others ih =>
    exact List.forall_mem_cons.mpr ⟨⟨pending, pieces.reference _ refers⟩,
      ih ((suffix_of_reference? refers).trans suffix)⟩
  | @literal pending first rest nodes unopened unreferred unclosed others ih =>
    exact List.forall_mem_cons.mpr ⟨⟨pending, pieces.literal _ _ (suffix.mem List.mem_cons_self)⟩,
      ih ((List.suffix_cons _ _).trans suffix)⟩

end CreatureNaming.Pattern
