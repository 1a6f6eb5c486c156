import CreatureNaming.Proofs.Pattern.Canonical
import CreatureNaming.Proofs.Pattern.PairedTree

/-! Parsing makes trees in normal form.

That a tree is canonical is a property of its pieces: merging makes literals stand apart, and
trimming can empty a literal, but then the nodes beside it are no literals, so nothing that has to
be trimmed or merged comes up when it is dropped.
-/

set_option autoImplicit false

namespace CreatureNaming.Pattern

variable {pending stop start limit : Nat} {input rest whole : List Lexeme} {text : List Char}
  {done nodes : List Node} {node : Node} {arguments : List (List Node)}

/-! ## Canonical lists of nodes -/

theorem separated_cons : Separated (node :: nodes) ↔
    (∀ next ∈ nodes.head?, node.isLiteral = true → next.isLiteral = false) ∧ Separated nodes :=
  List.isChain_cons

theorem areCanonical_iff : areCanonical nodes = true ↔
    (∀ node ∈ nodes, node.isCanonical = true) ∧ Separated nodes := by
  induction nodes with
  | nil => simp [areCanonical, Separated]
  | cons node rest ih =>
    have apart : (!(node.isLiteral && rest.head?.any Node.isLiteral)) = true ↔
        ∀ next ∈ rest.head?, node.isLiteral = true → next.isLiteral = false := by
      cases rest with
      | nil => simp
      | cons next rest => cases node.isLiteral <;> simp
    rw [areCanonical, Bool.and_eq_true, Bool.and_eq_true, ih, apart, List.forall_mem_cons,
      separated_cons]
    tauto

theorem areCanonicalArguments_iff : areCanonicalArguments arguments = true ↔
    ∀ nodes ∈ arguments, startsWithBlank nodes = false ∧ endsWithBlank nodes = false ∧
      areCanonical nodes = true := by
  induction arguments with
  | nil => simp [areCanonicalArguments]
  | cons nodes rest ih =>
    rw [areCanonicalArguments, Bool.and_eq_true, ih, List.forall_mem_cons]
    simp [and_assoc]

theorem isCanonical_mergeLiterals (canonical : ∀ node ∈ nodes, node.isCanonical = true) :
    ∀ node ∈ mergeLiterals nodes, node.isCanonical = true := by
  fun_induction mergeLiterals nodes with
  | case1 span text nextSpan nextText rest ih =>
    simp only [List.forall_mem_cons] at canonical
    refine ih (List.forall_mem_cons.mpr ⟨?_, canonical.2.2⟩)
    have filled := canonical.1
    simp only [Node.isCanonical, Bool.not_eq_true', String.isEmpty_eq_false_iff] at filled ⊢
    simp [filled]
  | case2 node rest unmerged ih =>
    rw [List.forall_mem_cons] at canonical ⊢
    exact ⟨canonical.1, ih canonical.2⟩
  | case3 => exact canonical

/-! ## Which nodes are literals -/

/-- Whether literals stand apart depends only on which nodes are literals. -/
theorem Separated.of_same {first second : List Node} (separated : Separated first)
    (same : second.map Node.isLiteral = first.map Node.isLiteral) : Separated second := by
  have inBools (nodes : List Node) : Separated nodes ↔
      (nodes.map Node.isLiteral).IsChain fun a b => a = true → b = false := by
    rw [List.isChain_map]
    rfl
  rw [inBools] at separated ⊢
  rwa [same]

theorem Node.isLiteral_mapLiteral (trim : String → String) (node : Node) :
    (node.mapLiteral trim).isLiteral = node.isLiteral := by
  cases node <;> rfl

theorem isLiteral_mapFirst (trim : String → String) (nodes : List Node) :
    (mapFirst (Node.mapLiteral trim) nodes).map Node.isLiteral = nodes.map Node.isLiteral := by
  cases nodes with
  | nil => rfl
  | cons node rest => rw [mapFirst, List.map_cons, List.map_cons, Node.isLiteral_mapLiteral]

theorem isLiteral_mapLast (trim : String → String) (nodes : List Node) :
    (mapLast (Node.mapLiteral trim) nodes).map Node.isLiteral = nodes.map Node.isLiteral := by
  fun_induction mapLast (Node.mapLiteral trim) nodes with
  | case1 => rfl
  | case2 last => rw [List.map_singleton, List.map_singleton, Node.isLiteral_mapLiteral]
  | case3 node rest more ih => rw [List.map_cons, List.map_cons, ih]

theorem isLiteral_of_isEmptyLiteral (empty : node.isEmptyLiteral = true) :
    node.isLiteral = true := by
  cases node with
  | literal span text => rfl
  | token span name => cases empty
  | call span nameSpan name arguments => cases empty

theorem isEmptyLiteral_of_built (built : node.isLiteral = false) :
    node.isEmptyLiteral = false := by
  cases node with
  | literal span text => cases built
  | token span name => rfl
  | call span nameSpan name arguments => rfl

/-- Beside a literal nothing is dropped. -/
theorem head?_filter_of_apart
    (apart : ∀ next ∈ nodes.head?, next.isLiteral = false) :
    (nodes.filter fun node => !node.isEmptyLiteral).head? = nodes.head? := by
  cases nodes with
  | nil => rfl
  | cons next rest =>
    have kept := isEmptyLiteral_of_built (apart next rfl)
    rw [List.filter_cons_of_pos (by simp [kept])]
    rfl

theorem Separated.filter (separated : Separated nodes) :
    Separated (nodes.filter fun node => !node.isEmptyLiteral) := by
  induction nodes with
  | nil => exact separated
  | cons node rest ih =>
    obtain ⟨apart, others⟩ := separated_cons.mp separated
    cases empty : node.isEmptyLiteral with
    | true =>
      rw [List.filter_cons_of_neg (by simp [empty])]
      exact ih others
    | false =>
      rw [List.filter_cons_of_pos (by simp [empty])]
      refine separated_cons.mpr ⟨fun next head literal => ?_, ih others⟩
      rw [head?_filter_of_apart fun next head => apart next head literal] at head
      exact apart next head literal

/-! ## Edges of an argument -/

def Node.startsBlank : Node → Bool
  | .literal _ text => text.toList.head?.any Text.isBlank
  | _ => false

def Node.endsBlank : Node → Bool
  | .literal _ text => text.toList.getLast?.any Text.isBlank
  | _ => false

theorem startsWithBlank_eq (nodes : List Node) :
    startsWithBlank nodes = nodes.head?.any Node.startsBlank := by
  cases nodes with
  | nil => rfl
  | cons node rest => cases node <;> rfl

theorem endsWithBlank_eq (nodes : List Node) :
    endsWithBlank nodes = nodes.getLast?.any Node.endsBlank := by
  unfold endsWithBlank
  cases nodes.getLast? with
  | none => rfl
  | some node => cases node <;> rfl

theorem head?_trimStartChars (text : List Char) :
    (Text.trimStartChars text).head?.any Text.isBlank = false := by
  cases trimmed : (Text.trimStartChars text).head? with
  | none => rfl
  | some c =>
    have clean := List.head?_dropWhile_not Text.isBlank text
    rw [show (text.dropWhile Text.isBlank).head? = some c from trimmed] at clean
    exact clean

theorem getLast?_trimEndChars (text : List Char) :
    (Text.trimEndChars text).getLast?.any Text.isBlank = false := by
  rw [Text.trimEndChars, List.getLast?_reverse]
  exact head?_trimStartChars text.reverse

theorem Node.startsBlank_trimStart (node : Node) :
    (node.mapLiteral Text.trimStart).startsBlank = false := by
  cases node with
  | literal span text =>
    simp only [Node.mapLiteral, Node.startsBlank, Text.trimStart, String.toList_ofList]
    exact head?_trimStartChars text.toList
  | token span name => rfl
  | call span nameSpan name arguments => rfl

theorem Node.endsBlank_trimEnd (node : Node) :
    (node.mapLiteral Text.trimEnd).endsBlank = false := by
  cases node with
  | literal span text =>
    simp only [Node.mapLiteral, Node.endsBlank, Text.trimEnd, String.toList_ofList]
    exact getLast?_trimEndChars text.toList
  | token span name => rfl
  | call span nameSpan name arguments => rfl

theorem trimEndChars_prefix (text : List Char) : Text.trimEndChars text <+: text := by
  rw [← List.reverse_suffix, Text.trimEndChars, List.reverse_reverse]
  exact List.dropWhile_suffix Text.isBlank

/-- What is left of a text at its end begins as the text does. -/
theorem Node.startsBlank_trimEnd (clean : node.startsBlank = false) :
    (node.mapLiteral Text.trimEnd).startsBlank = false := by
  cases node with
  | literal span text =>
    simp only [Node.mapLiteral, Node.startsBlank, Text.trimEnd, String.toList_ofList] at clean ⊢
    obtain ⟨cut, same⟩ := trimEndChars_prefix text.toList
    cases kept : Text.trimEndChars text.toList with
    | nil => rfl
    | cons c rest =>
      rw [← same, kept] at clean
      exact clean
  | token span name => rfl
  | call span nameSpan name arguments => rfl

theorem getLast?_mapLast (change : Node → Node) (nodes : List Node) :
    (mapLast change nodes).getLast? = nodes.getLast?.map change := by
  fun_induction mapLast change nodes with
  | case1 => rfl
  | case2 last => rfl
  | case3 node rest more ih =>
    rw [List.getLast?_cons, List.getLast?_cons, ih]
    cases last : rest.getLast? with
    | none => exact absurd (List.getLast?_eq_none_iff.mp last) more
    | some last => rfl

theorem head?_mapLast_trimEnd (clean : nodes.head?.any Node.startsBlank = false) :
    (mapLast (Node.mapLiteral Text.trimEnd) nodes).head?.any Node.startsBlank = false := by
  cases nodes with
  | nil => rfl
  | cons node rest =>
    cases rest with
    | nil => exact Node.startsBlank_trimEnd clean
    | cons second rest => exact clean

/-- If a literal is dropped at the start, what comes to stand there is no literal. -/
theorem any_head?_filter {edge : Node → Bool}
    (atLiterals : ∀ node, node.isLiteral = false → edge node = false) (separated : Separated nodes)
    (clean : nodes.head?.any edge = false) :
    (nodes.filter fun node => !node.isEmptyLiteral).head?.any edge = false := by
  cases nodes with
  | nil => rfl
  | cons node rest =>
    cases empty : node.isEmptyLiteral with
    | false =>
      rw [List.filter_cons_of_pos (by simp [empty])]
      exact clean
    | true =>
      have apart := (separated_cons.mp separated).1
      have literal := isLiteral_of_isEmptyLiteral empty
      rw [List.filter_cons_of_neg (by simp [empty]),
        head?_filter_of_apart fun next head => apart next head literal]
      cases head : rest.head? with
      | none => rfl
      | some next => exact atLiterals next (apart next head literal)

theorem Separated.reverse (separated : Separated nodes) : Separated nodes.reverse := by
  apply List.isChain_reverse.mpr
  refine List.IsChain.imp (fun first second apart literal => ?_) separated
  cases before : first.isLiteral with
  | false => rfl
  | true =>
    rw [apart before] at literal
    cases literal

theorem any_getLast?_filter {edge : Node → Bool}
    (atLiterals : ∀ node, node.isLiteral = false → edge node = false) (separated : Separated nodes)
    (clean : nodes.getLast?.any edge = false) :
    (nodes.filter fun node => !node.isEmptyLiteral).getLast?.any edge = false := by
  rw [← List.head?_reverse] at clean ⊢
  rw [← List.filter_reverse]
  exact any_head?_filter atLiterals separated.reverse clean

/-! ## Arguments -/

/-- Trimming changes nothing that is canonical but the texts of literals. -/
theorem isCanonical_mapLiteral (trim : String → String) (node : Node)
    (canonical : node.isEmptyLiteral = false → node.isCanonical = true) :
    (node.mapLiteral trim).isEmptyLiteral = false →
      (node.mapLiteral trim).isCanonical = true := by
  cases node with
  | literal span text =>
    intro filled
    simpa [Node.mapLiteral, Node.isCanonical, Node.isEmptyLiteral] using filled
  | token span name => exact canonical
  | call span nameSpan name arguments => exact canonical

theorem argument_isCanonical (canonical : ∀ node ∈ nodes, node.isCanonical = true) :
    startsWithBlank (argument nodes) = false ∧ endsWithBlank (argument nodes) = false ∧
      areCanonical (argument nodes) = true := by
  have startBuilt (node : Node) (built : node.isLiteral = false) : node.startsBlank = false := by
    cases node <;> first | rfl | cases built
  have endBuilt (node : Node) (built : node.isLiteral = false) : node.endsBlank = false := by
    cases node <;> first | rfl | cases built
  rw [argument]
  generalize trimmedStart : mapFirst (Node.mapLiteral Text.trimStart) (mergeLiterals nodes) = first
  generalize trimmedEnd : mapLast (Node.mapLiteral Text.trimEnd) first = second
  -- Merging separates the literals, and trimming makes no node a literal.
  have separated : Separated second := by
    refine (separated_mergeLiterals nodes).of_same ?_
    rw [← trimmedEnd, isLiteral_mapLast, ← trimmedStart, isLiteral_mapFirst]
  have starts : second.head?.any Node.startsBlank = false := by
    rw [← trimmedEnd, ← trimmedStart]
    apply head?_mapLast_trimEnd
    cases mergeLiterals nodes with
    | nil => rfl
    | cons node rest => exact node.startsBlank_trimStart
  have ends : second.getLast?.any Node.endsBlank = false := by
    rw [← trimmedEnd, getLast?_mapLast]
    cases first.getLast? with
    | none => rfl
    | some node => exact node.endsBlank_trimEnd
  have filled : ∀ node ∈ second, node.isEmptyLiteral = false → node.isCanonical = true := by
    rw [← trimmedEnd, ← trimmedStart]
    refine forall_mem_mapLast (isCanonical_mapLiteral _)
      (forall_mem_mapFirst (isCanonical_mapLiteral _) fun node member _ => ?_)
    exact isCanonical_mergeLiterals canonical node member
  rw [startsWithBlank_eq, endsWithBlank_eq, areCanonical_iff]
  refine ⟨any_head?_filter startBuilt separated starts, any_getLast?_filter endBuilt separated ends,
    fun node member => ?_, separated.filter⟩
  obtain ⟨member, kept⟩ := List.mem_filter.mp member
  exact filled node member (by simpa using kept)

/-! ## Canonical trees -/

theorem Spelled.isCanonical (spelled : Spelled start input text) :
    ∀ lexeme ∈ input, lexeme.toNode.isCanonical = true := by
  induction spelled with
  | nil start => simp
  | @cons start lexeme later lexemes raw range spells rest ih =>
    refine List.forall_mem_cons.mpr ⟨?_, ih⟩
    have filled : lexeme.literal.toList ≠ [] := by
      have unescapes := spells.unescape [] List.nil_prefix
      simp only [List.append_nil, unescape] at unescapes
      rw [← unescapes]
      exact ne_nil_of_unescape spells.ne_nil
    simpa [Lexeme.toNode, Node.isCanonical] using filled

theorem ArgumentsPaired.ne_nil (paired : ArgumentsPaired pending done input arguments stop rest) :
    arguments ≠ [] := by
  induction paired with
  | closing closes => simp
  | pipe separates others ih => simp
  | call opens room inside others ihInside ihOthers => exact ihOthers
  | tooDeep opens deep others ih => exact ih
  | reference refers others ih => exact ih
  | literal inside unopened unreferred unclosed others ih => exact ih

theorem holdsOfPieces_isCanonical (spelled : Spelled start whole text) :
    HoldsOfPieces whole fun _ node => node.isCanonical = true where
  literal _ := spelled.isCanonical
  token _ _ _ identifier := identifier
  call {_ _ _ _ _ _ arguments} suffix opens room inside built := by
    obtain ⟨_, _, _, _, _, _, identifier, rfl, -⟩ := opening?_shape opens
    have canonical : areCanonicalArguments arguments = true := by
      refine areCanonicalArguments_iff.mpr fun nodes member => ?_
      obtain ⟨pieces, rfl, all⟩ := built nodes member
      exact argument_isCanonical all
    simp [Node.isCanonical, identifier, inside.ne_nil, canonical]

theorem areCanonical_parse (source : String) : areCanonical (parse source) = true := by
  obtain ⟨nodes, paired, same⟩ := exists_parse_eq source
  have pieces := holdsOfPieces_isCanonical (lexemesFrom_spelled 0 source.toList)
  rw [same, areCanonical_iff]
  refine ⟨isCanonical_mergeLiterals fun node member => ?_, separated_mergeLiterals nodes⟩
  obtain ⟨_, canonical⟩ := paired.forall_holds pieces List.suffix_rfl node member
  exact canonical

/-! ## Depth -/

theorem depth_le_iff : depth nodes ≤ limit ↔ ∀ node ∈ built nodes, node.depth ≤ limit := by
  induction nodes with
  | nil => simp [depth, built]
  | cons node rest ih =>
    rw [depth, Nat.max_le, ih]
    cases node with
    | literal span text => simp [Node.depth, built, Node.isLiteral]
    | token span name => simp [Node.depth, built, Node.isLiteral]
    | call span nameSpan name arguments => simp [built, Node.isLiteral]

theorem argumentsDepth_le_iff :
    argumentsDepth arguments ≤ limit ↔ ∀ nodes ∈ arguments, depth nodes ≤ limit := by
  induction arguments with
  | nil => simp [argumentsDepth]
  | cons nodes rest ih => rw [argumentsDepth, Nat.max_le, ih, List.forall_mem_cons]

/-- A call is pending around the pieces of its arguments. -/
theorem holdsOfPieces_depth (whole : List Lexeme) :
    HoldsOfPieces whole fun pending node => node.depth ≤ maxCallDepth - pending where
  literal _ _ _ := Nat.zero_le _
  token _ _ _ _ := Nat.zero_le _
  call {pending _ _ _ _ _ arguments} suffix opens room inside pieces := by
    have below : argumentsDepth arguments ≤ maxCallDepth - (pending + 1) := by
      refine argumentsDepth_le_iff.mpr fun nodes member => ?_
      obtain ⟨pieces, rfl, all⟩ := pieces nodes member
      rw [depth_le_iff, built_argument]
      exact fun node member => all node (List.mem_of_mem_filter member)
    rw [Node.depth]
    omega

theorem depth_parse_le (source : String) : depth (parse source) ≤ maxCallDepth := by
  obtain ⟨nodes, paired, same⟩ := exists_parse_eq source
  rw [same, depth_le_iff, built_mergeLiterals]
  intro node member
  obtain ⟨pending, below⟩ := paired.forall_holds (holdsOfPieces_depth _) List.suffix_rfl node
    (List.mem_of_mem_filter member)
  exact Nat.le_trans below (Nat.sub_le _ _)

end CreatureNaming.Pattern
