import Mathlib.Data.List.Nodup
import Mathlib.Data.List.Perm.Basic
import CreatureNaming.Proofs.Pattern.Accounted
import CreatureNaming.Proofs.Token.Names

/-! What is found in a pattern.

Each opening of a call is a call of the tree, or it is found to be unclosed. Beyond that, the
findings are one for each name that is not known. They are read off the nodes one by one, so what
holds of the findings about a node holds of all findings, whatever their order.
-/

set_option autoImplicit false

namespace CreatureNaming

/-- Where a call begins that is never closed. -/
def Finding.unclosedStart? : Finding → Option Nat
  | .unterminatedCall span => some span.start
  | _ => none

def Finding.isUnclosed (finding : Finding) : Bool := finding.unclosedStart?.isSome

def unclosedStarts (found : List Finding) : List Nat := found.filterMap Finding.unclosedStart?

theorem Function.ofName?_eq_none_iff {name : String} :
    Function.ofName? name = none ↔
      ∀ function ∈ Function.all, Text.foldCase function.name ≠ Text.foldCase name := by
  simp [Function.ofName?, Text.equalFolded]

namespace Pattern

/-- Three lexemes of the source begin a call at a byte: two open braces and a hash. -/
def OpensCall (source : String) (place : Nat) : Prop :=
  ∃ first second hash : Span,
    [⟨.braceOpen, first⟩, ⟨.braceOpen, second⟩, ⟨.hash, hash⟩] <:+: lexemes source ∧
      first.start = place

def Node.callStart? : Node → Option Nat
  | .call span _ _ _ => some span.start
  | _ => none

def callStarts (nodes : List Node) : List Nat := nodes.filterMap Node.callStart?

/-- The finding about a name that is neither in the catalog of tokens nor that of a function. -/
def Node.misnamed? : Node → Option Finding
  | .literal _ _ => none
  | .token span name =>
      if ∀ token ∈ Token.catalog, Text.foldCase token.name ≠ Text.foldCase name then
        some (.unknownToken span name)
      else none
  | .call _ nameSpan name _ =>
      if ∀ function ∈ Function.all, Text.foldCase function.name ≠ Text.foldCase name then
        some (.unknownFunction nameSpan name)
      else none

variable {source : List Char} {node : Node} {nodes : List Node}

/-! ## The findings about one node -/

/-- The findings about a literal are its openings. -/
theorem mem_findingsAt_literal {span : Span} {text : String} {finding : Finding}
    (found : finding ∈ findingsAt source (.literal span text)) :
    ∃ raw place, span.slice source = some raw ∧ place ∈ openingsFrom span.start false raw ∧
      finding = .unterminatedCall ⟨place, span.stop⟩ := by
  rw [findingsAt] at found
  split at found
  · cases found
  · next raw sliced =>
    obtain ⟨place, opens, rfl⟩ := List.mem_map.mp found
    exact ⟨raw, place, sliced, opens, rfl⟩

theorem findingsAt_openings (node : Node) :
    node.callStart?.toList ++ (findingsAt source node).filterMap Finding.unclosedStart? =
      node.openings source := by
  cases node with
  | literal span text =>
    rw [findingsAt, Node.openings]
    cases span.slice source with
    | none => rfl
    | some raw =>
      simp only [Node.callStart?, Option.toList_none, List.nil_append, List.filterMap_map]
      exact List.filterMap_some
  | token span name =>
    rw [findingsAt]
    cases Token.ofName? name <;> rfl
  | call span nameSpan name arguments =>
    rw [findingsAt]
    cases Function.ofName? name <;> rfl

theorem findingsAt_misnamed (node : Node) :
    (findingsAt source node).filter (fun finding => !finding.isUnclosed) =
      node.misnamed?.toList := by
  cases node with
  | literal span text =>
    apply List.filter_eq_nil_iff.mpr
    intro finding found
    obtain ⟨raw, place, -, -, rfl⟩ := mem_findingsAt_literal found
    simp [Finding.isUnclosed, Finding.unclosedStart?]
  | token span name =>
    simp only [findingsAt, Node.misnamed?, ← Token.ofName?_eq_none_iff]
    cases Token.ofName? name <;> rfl
  | call span nameSpan name arguments =>
    simp only [findingsAt, Node.misnamed?, ← Function.ofName?_eq_none_iff]
    cases Function.ofName? name <;> rfl

/-- A finding about a faithful node is about some text of the source. -/
theorem findingsAt_sliced {first last : Bool} (faithful : node.Faithful source first last)
    {finding : Finding} (found : finding ∈ findingsAt source node) :
    finding.span.start ≤ finding.span.stop ∧ ∃ text, finding.span.slice source = some text := by
  cases node with
  | literal span text =>
    obtain ⟨raw, nonempty, sliced, -⟩ := faithful
    obtain ⟨opened, place, same, opens, rfl⟩ := mem_findingsAt_literal found
    obtain rfl := Option.some.inj (sliced.symm.trans same)
    obtain ⟨room, later, stands⟩ := Span.dropBytes_of_slice sliced nonempty
    obtain ⟨before, behind, rfl, rfl, -⟩ := mem_openingsFrom.mp opens
    -- What is unclosed reaches from the opening to the end of the literal.
    rw [List.append_assoc] at stands
    have rest := Span.slice_of_dropBytes _ (Span.dropBytes_behind before stands)
    rw [Nat.add_assoc, ← Text.byteLength_append, ← room] at rest
    rw [Text.byteLength_append] at room
    have atMost : span.start + Text.byteLength before ≤ span.stop := by omega
    exact ⟨atMost, _, rest⟩
  | token span name =>
    obtain ⟨-, sliced⟩ := faithful
    have same : finding.span = span := by
      rw [findingsAt] at found
      split at found
      · cases found
      · rw [List.mem_singleton.mp found, Finding.span]
    obtain ⟨room, -⟩ := Span.dropBytes_of_slice sliced (by simp)
    rw [same]
    exact ⟨by omega, _, sliced⟩
  | call span nameSpan name arguments =>
    obtain ⟨nameText, -, -, room, sliced, -⟩ := faithful
    have same : finding.span = nameSpan := by
      rw [findingsAt] at found
      split at found
      · cases found
      · rw [List.mem_singleton.mp found, Finding.span]
    rw [same]
    refine ⟨?_, nameText, sliced⟩
    rw [room]
    exact Nat.le_add_right _ _

/-! ## Nodes at any depth -/

mutual

theorem faithful_flatten : ∀ (node : Node) (first last : Bool),
    node.Faithful source first last → ∀ inner ∈ node.flatten,
      ∃ first last, inner.Faithful source first last
  | .literal span text, first, last, faithful => by
    rw [Node.flatten, List.forall_mem_singleton]
    · exact ⟨first, last, faithful⟩
    · nofun
  | .token span name, first, last, faithful => by
    rw [Node.flatten, List.forall_mem_singleton]
    · exact ⟨first, last, faithful⟩
    · nofun
  | .call span nameSpan name arguments, first, last, faithful => by
    rw [Node.flatten, List.forall_mem_cons]
    refine ⟨⟨first, last, faithful⟩, ?_⟩
    obtain ⟨_, _, -, -, -, -, -, -, inside⟩ := faithful
    exact everyFaithful_flatten arguments inside

theorem everyFaithful_flatten : ∀ (arguments : List (List Node)),
    everyFaithful source arguments → ∀ inner ∈ flattenArguments arguments,
      ∃ first last, inner.Faithful source first last
  | [], _ => nofun
  | nodes :: rest, faithful => by
    rw [flattenArguments, List.forall_mem_append]
    exact ⟨edgesFaithful_flatten nodes true faithful.1, everyFaithful_flatten rest faithful.2⟩

theorem edgesFaithful_flatten : ∀ (nodes : List Node) (first : Bool),
    edgesFaithful source first nodes → ∀ inner ∈ flatten nodes,
      ∃ first last, inner.Faithful source first last
  | [], _, _ => nofun
  | node :: rest, first, faithful => by
    rw [flatten, List.forall_mem_append]
    exact ⟨faithful_flatten node first _ faithful.1, edgesFaithful_flatten rest false faithful.2⟩

end

theorem parse_faithful (source : String) :
    ∀ node ∈ flatten (parse source), ∃ first last, node.Faithful source.toList first last := by
  obtain ⟨-, holds⟩ := parse_holds source
  generalize parse source = nodes at holds
  induction nodes with
  | nil => nofun
  | cons node rest ih =>
    rw [List.forall_mem_cons] at holds
    rw [flatten, List.forall_mem_append]
    exact ⟨faithful_flatten node false false holds.1.faithful, ih holds.2⟩

/-! ## All findings -/

theorem findings_perm (source : String) :
    (findings source).Perm ((flatten (parse source)).flatMap (findingsAt source.toList)) :=
  List.mergeSort_perm _ _

/-- Calls and unclosed openings together are the places where the source begins calls. -/
theorem calls_unclosed_perm (source : String) :
    (callStarts (flatten (parse source)) ++ unclosedStarts (findings source)).Perm
      (callPlaces (lexemes source)) := by
  have unclosed := (findings_perm source).filterMap Finding.unclosedStart?
  rw [List.filterMap_flatMap] at unclosed
  rw [← openingsIn_parse, openingsIn, callStarts, List.filterMap_eq_flatMap_toList]
  apply (unclosed.append_left _).trans
  apply (List.flatMap_append_perm _ _ _).trans
  simp only [findingsAt_openings]
  exact .refl _

theorem nodup_callPlaces (source : String) : (callPlaces (lexemes source)).Nodup := by
  rw [lexemes, ← openingsFrom_eq_callPlaces]
  exact (openingsFrom_increasing 0 false source.toList).imp Nat.ne_of_lt

theorem misnamed_perm (source : String) :
    ((findings source).filter fun finding => !finding.isUnclosed).Perm
      ((flatten (parse source)).filterMap Node.misnamed?) := by
  have named := (findings_perm source).filter fun finding => !finding.isUnclosed
  rw [List.filter_flatMap] at named
  rw [List.filterMap_eq_flatMap_toList]
  simpa only [findingsAt_misnamed] using named

theorem findings_sorted (source : String) :
    (findings source).Pairwise fun first second => first.span.start ≤ second.span.start := by
  have sorted : (findings source).Pairwise fun first second =>
      decide (first.span.start ≤ second.span.start) = true := by
    apply List.pairwise_mergeSort
    · intro first second third before behind
      rw [decide_eq_true_eq] at before behind ⊢
      exact Nat.le_trans before behind
    · intro first second
      rw [Bool.or_eq_true, decide_eq_true_eq, decide_eq_true_eq]
      exact Nat.le_total _ _
  exact sorted.imp of_decide_eq_true

/-- Every place of a pattern that begins a call is the start of one call of its tree, or of one
finding that a call is unclosed, and of nothing else of both. Apart from these, the findings are
one for each unknown name of the tree. All of them lie in the source, and they are in order. -/
theorem findings_account (source : String) :
    (∀ place, OpensCall source place →
        (callStarts (flatten (parse source))).count place +
          (unclosedStarts (findings source)).count place = 1) ∧
      (∀ place ∈ unclosedStarts (findings source), OpensCall source place) ∧
      ((findings source).filter fun finding => !finding.isUnclosed).Perm
        ((flatten (parse source)).filterMap Node.misnamed?) ∧
      (∀ finding ∈ findings source, finding.span.start ≤ finding.span.stop ∧
        ∃ text, finding.span.slice source.toList = some text) ∧
      (findings source).Pairwise fun first second => first.span.start ≤ second.span.start := by
  have accounted := calls_unclosed_perm source
  refine ⟨?_, ?_, misnamed_perm source, ?_, findings_sorted source⟩
  · intro place opens
    have once : (callPlaces (lexemes source)).count place = 1 :=
      List.count_eq_one_of_mem (nodup_callPlaces source) (mem_callPlaces.mpr opens)
    rw [← List.count_append, accounted.count_eq, once]
  · intro place member
    apply mem_callPlaces.mp
    exact accounted.mem_iff.mp (List.mem_append_right _ member)
  · intro finding member
    obtain ⟨node, inside, about⟩ := List.mem_flatMap.mp ((findings_perm source).mem_iff.mp member)
    obtain ⟨first, last, faithful⟩ := parse_faithful source node inside
    exact findingsAt_sliced faithful about

end Pattern

end CreatureNaming
