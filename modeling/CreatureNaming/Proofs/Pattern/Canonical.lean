import CreatureNaming.Proofs.Pattern.Places

/-! Canonical trees and their text.

A tree can be written out as a pattern. It is canonical if it has the form of the trees that
parsing makes: then no two of its parts run together in that text, and trimming takes nothing
away. Where the nodes of a tree stand in some source does not matter here.
-/

set_option autoImplicit false

namespace CreatureNaming.Pattern

/-! ## Writing -/

/-- A text with a backslash before each character that can be escaped. -/
def escape : List Char → List Char
  | [] => []
  | c :: rest => if isStructural c then '\\' :: c :: escape rest else c :: escape rest

mutual

def Node.written : Node → List Char
  | .literal _ text => escape text.toList
  | .token _ name => '{' :: (name.toList ++ ['}'])
  | .call _ _ name arguments =>
      '{' :: '{' :: '#' :: (name.toList ++ ':' :: (writtenArguments arguments ++ ['}', '}']))

def writtenArguments : List (List Node) → List Char
  | [] => []
  | [nodes] => written nodes
  | nodes :: next :: rest => written nodes ++ '|' :: writtenArguments (next :: rest)

def written : List Node → List Char
  | [] => []
  | node :: rest => node.written ++ written rest

end

/-! ## The trees that are written -/

def startsWithBlank : List Node → Bool
  | .literal _ text :: _ => text.toList.head?.any Text.isBlank
  | _ => false

def endsWithBlank (nodes : List Node) : Bool :=
  match nodes.getLast? with
  | some (.literal _ text) => text.toList.getLast?.any Text.isBlank
  | _ => false

mutual

def Node.isCanonical : Node → Bool
  | .literal _ text => !text.isEmpty
  | .token _ name => isIdentifier name
  | .call _ _ name arguments =>
      isIdentifier name && !arguments.isEmpty && areCanonicalArguments arguments

def areCanonicalArguments : List (List Node) → Bool
  | [] => true
  | nodes :: rest =>
      !startsWithBlank nodes && !endsWithBlank nodes && areCanonical nodes &&
        areCanonicalArguments rest

def areCanonical : List Node → Bool
  | [] => true
  | node :: rest =>
      node.isCanonical && !(node.isLiteral && rest.head?.any Node.isLiteral) && areCanonical rest

end

mutual

/-- How many calls stand inside each other, the node itself included. -/
def Node.depth : Node → Nat
  | .call _ _ _ arguments => argumentsDepth arguments + 1
  | _ => 0

def argumentsDepth : List (List Node) → Nat
  | [] => 0
  | nodes :: rest => max (depth nodes) (argumentsDepth rest)

def depth : List Node → Nat
  | [] => 0
  | node :: rest => max node.depth (depth rest)

end

mutual

/-- The node without the places of a source. -/
def Node.unplaced : Node → Node
  | .literal _ text => .literal ⟨0, 0⟩ text
  | .token _ name => .token ⟨0, 0⟩ name
  | .call _ _ name arguments => .call ⟨0, 0⟩ ⟨0, 0⟩ name (unplacedArguments arguments)

def unplacedArguments : List (List Node) → List (List Node)
  | [] => []
  | nodes :: rest => unplaced nodes :: unplacedArguments rest

def unplaced : List Node → List Node
  | [] => []
  | node :: rest => node.unplaced :: unplaced rest

end

variable {node : Node} {nodes : List Node}

theorem areCanonical_cons {rest : List Node} (canonical : areCanonical (node :: rest) = true) :
    node.isCanonical = true ∧
      (node.isLiteral = true → ∀ next ∈ rest.head?, next.isLiteral = false) ∧
      areCanonical rest = true := by
  simp only [areCanonical, Bool.and_eq_true, Bool.not_eq_true', Bool.and_eq_false_iff] at canonical
  refine ⟨canonical.1.1, fun literal next head => ?_, canonical.2⟩
  have := canonical.1.2
  rw [Option.mem_def.mp head] at this
  simpa [literal] using this

theorem areCanonicalArguments_cons {rest : List (List Node)}
    (canonical : areCanonicalArguments (nodes :: rest) = true) :
    startsWithBlank nodes = false ∧ endsWithBlank nodes = false ∧ areCanonical nodes = true ∧
      areCanonicalArguments rest = true := by
  simp only [areCanonicalArguments, Bool.and_eq_true, Bool.not_eq_true'] at canonical
  exact ⟨canonical.1.1.1, canonical.1.1.2, canonical.1.2, canonical.2⟩

theorem unplaced_eq_map (nodes : List Node) : unplaced nodes = nodes.map Node.unplaced := by
  induction nodes with
  | nil => rfl
  | cons node rest ih => rw [unplaced, ih, List.map_cons]

theorem unplaced_append (first second : List Node) :
    unplaced (first ++ second) = unplaced first ++ unplaced second := by
  simp only [unplaced_eq_map, List.map_append]

@[simp] theorem Node.isLiteral_unplaced (node : Node) :
    node.unplaced.isLiteral = node.isLiteral := by
  cases node <;> rfl

/-! ## Merging and trimming, wherever the nodes stand -/

mutual

theorem Node.unplaced_eq_mapSpan : ∀ node : Node, node.unplaced = node.mapSpan fun _ => ⟨0, 0⟩
  | .literal _ _ => rfl
  | .token _ _ => rfl
  | .call _ _ _ arguments => by
    rw [Node.unplaced, Node.mapSpan, unplacedArguments_eq_mapSpansOfArguments arguments]

theorem unplacedArguments_eq_mapSpansOfArguments : ∀ arguments : List (List Node),
    unplacedArguments arguments = mapSpansOfArguments (fun _ => ⟨0, 0⟩) arguments
  | [] => rfl
  | nodes :: rest => by
    rw [unplacedArguments, mapSpansOfArguments, unplaced_eq_mapSpans nodes,
      unplacedArguments_eq_mapSpansOfArguments rest]

theorem unplaced_eq_mapSpans : ∀ nodes : List Node,
    unplaced nodes = mapSpans (fun _ => ⟨0, 0⟩) nodes
  | [] => rfl
  | node :: rest => by
    rw [unplaced, mapSpans, node.unplaced_eq_mapSpan, unplaced_eq_mapSpans rest]

end

theorem unplaced_mergeLiterals (nodes : List Node) :
    unplaced (mergeLiterals nodes) = mergeLiterals (unplaced nodes) := by
  rw [unplaced_eq_mapSpans, mapSpans_mergeLiterals fun _ _ => rfl, ← unplaced_eq_mapSpans]

/-! ## Trimming what is canonical -/

theorem trimStartChars_eq_self {text : List Char} (clean : text.head?.any Text.isBlank = false) :
    Text.trimStartChars text = text := by
  cases text with
  | nil => rfl
  | cons c rest => exact List.dropWhile_cons_of_neg (by simpa using clean)

theorem trimEndChars_eq_self {text : List Char} (clean : text.getLast?.any Text.isBlank = false) :
    Text.trimEndChars text = text := by
  rw [← List.head?_reverse] at clean
  have reversed : text.reverse.dropWhile Text.isBlank = text.reverse := trimStartChars_eq_self clean
  rw [Text.trimEndChars, reversed, List.reverse_reverse]

theorem mapFirst_trimStart (starts : startsWithBlank nodes = false) :
    mapFirst (Node.mapLiteral Text.trimStart) nodes = nodes := by
  cases nodes with
  | nil => rfl
  | cons node rest =>
    cases node with
    | literal span text =>
      have kept := trimStartChars_eq_self starts
      simp [mapFirst, Node.mapLiteral, Text.trimStart, kept]
    | token span name => rfl
    | call span nameSpan name arguments => rfl

theorem mapLast_trimEnd (ends : endsWithBlank nodes = false) :
    mapLast (Node.mapLiteral Text.trimEnd) nodes = nodes := by
  induction nodes with
  | nil => rfl
  | cons node rest ih =>
    cases rest with
    | nil =>
      cases node with
      | literal span text =>
        have kept := trimEndChars_eq_self ends
        simp [mapLast, Node.mapLiteral, Text.trimEnd, kept]
      | token span name => rfl
      | call span nameSpan name arguments => rfl
    | cons next rest =>
      rw [mapLast, ih ends]
      simp

theorem not_isEmptyLiteral_of_isCanonical (canonical : node.isCanonical = true) :
    node.isEmptyLiteral = false := by
  cases node with
  | literal span text => simpa [Node.isCanonical, Node.isEmptyLiteral] using canonical
  | token span name => rfl
  | call span nameSpan name arguments => rfl

theorem isCanonical_of_mem (canonical : areCanonical nodes = true) :
    ∀ node ∈ nodes, node.isCanonical = true := by
  induction nodes with
  | nil => simp
  | cons node rest ih =>
    obtain ⟨first, -, others⟩ := areCanonical_cons canonical
    exact List.forall_mem_cons.mpr ⟨first, ih others⟩

theorem cutLast_canonical (canonical : areCanonical nodes = true)
    (ends : endsWithBlank nodes = false) : cutLast nodes = nodes := by
  rw [cutLast, mapLast_trimEnd ends, List.filter_eq_self]
  intro node member
  simp [not_isEmptyLiteral_of_isCanonical (isCanonical_of_mem canonical node member)]

/-- What merges into a canonical argument is trimmed to that argument. -/
theorem unplaced_argument {pieces : List Node} (canonical : areCanonical nodes = true)
    (starts : startsWithBlank nodes = false) (ends : endsWithBlank nodes = false)
    (merges : mergeLiterals (unplaced pieces) = unplaced nodes) :
    unplaced (argument pieces) = unplaced nodes := calc
  unplaced (argument pieces)
  _ = cutLast (mapFirst (Node.mapLiteral Text.trimStart) (mergeLiterals (unplaced pieces))) := by
    rw [unplaced_eq_mapSpans, mapSpans_argument fun _ _ => rfl, ← unplaced_eq_mapSpans,
      argument_eq_cutLast]
  _ = unplaced (cutLast (mapFirst (Node.mapLiteral Text.trimStart) nodes)) := by
    rw [merges, unplaced_eq_mapSpans, unplaced_eq_mapSpans, mapSpans_cutLast, mapSpans_mapFirst]
  _ = unplaced nodes := by
    rw [mapFirst_trimStart starts, cutLast_canonical canonical ends]

/-! ## Names -/

theorem isAlphanum_plain {c : Char} (word : (c.isAlphanum || c == '_') = true) :
    isStructural c = false ∧ Text.isBlank c = false := by
  constructor
  · rw [Bool.eq_false_iff]
    intro structural
    simp only [isStructural, Bool.or_eq_true, beq_iff_eq] at structural
    rcases structural with ((((rfl | rfl) | rfl) | rfl) | rfl) | rfl <;> revert word <;> decide
  · have range : 48 ≤ c.toNat ∧ c.toNat ≤ 122 := by
      rcases (Bool.or_eq_true _ _).mp word with alphanumeric | underscore
      · rcases (Bool.or_eq_true _ _).mp alphanumeric with alphabetic | digit
        · rcases (Bool.or_eq_true _ _).mp alphabetic with upper | lower
          · have : 65 ≤ c.toNat ∧ c.toNat ≤ 90 := of_decide_eq_true upper
            omega
          · obtain ⟨atLeast, atMost⟩ := (Bool.and_eq_true _ _).mp lower
            have : 97 ≤ c.toNat := of_decide_eq_true atLeast
            have : c.toNat ≤ 122 := of_decide_eq_true atMost
            omega
        · obtain ⟨atLeast, atMost⟩ := (Bool.and_eq_true _ _).mp digit
          have : 48 ≤ c.toNat := of_decide_eq_true atLeast
          have : c.toNat ≤ 57 := of_decide_eq_true atMost
          omega
      · rw [eq_of_beq underscore]
        decide
    simp only [Text.isBlank]
    simp
    omega

theorem isIdentifier_plain {name : String} (identifier : isIdentifier name = true) :
    name.toList ≠ [] ∧ ∀ c ∈ name.toList, isStructural c = false ∧ Text.isBlank c = false := by
  unfold isIdentifier at identifier
  cases chars : name.toList with
  | nil => simp [chars] at identifier
  | cons first rest =>
    simp only [chars, Bool.and_eq_true, List.all_eq_true] at identifier
    refine ⟨by simp, List.forall_mem_cons.mpr ⟨isAlphanum_plain ?_, ?_⟩⟩
    · have := identifier.1
      simp only [Char.isAlphanum, Bool.or_eq_true] at this ⊢
      tauto
    · exact fun c member => isAlphanum_plain (identifier.2 c member)

theorem head_identifier {name : String} (identifier : isIdentifier name = true) :
    ∃ first rest, name.toList = first :: rest ∧ isStructural first = false := by
  obtain ⟨nonempty, plain⟩ := isIdentifier_plain identifier
  cases chars : name.toList with
  | nil => exact absurd chars nonempty
  | cons first rest =>
    rw [chars, List.forall_mem_cons] at plain
    exact ⟨first, rest, rfl, plain.1.1⟩

theorem trim_identifier {name : String} (identifier : isIdentifier name = true) :
    Text.trim name = name := by
  have ⟨_, plain⟩ := isIdentifier_plain identifier
  have clean (edge : Option Char) (among : ∀ c ∈ edge, c ∈ name.toList) :
      edge.any Text.isBlank = false := by
    cases edge with
    | none => rfl
    | some c => exact (plain c (among c rfl)).2
  rw [Text.trim, Text.trimChars, trimStartChars_eq_self (clean _ fun c => List.mem_of_head?),
    trimEndChars_eq_self (clean _ fun c => List.mem_of_getLast?), String.ofList_toList]

end CreatureNaming.Pattern
