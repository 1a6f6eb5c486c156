import CreatureNaming.Proofs.Pattern.Spelling
import CreatureNaming.Pattern.Tree
import Mathlib.Data.List.Chain

/-! What a tree says about its source.

Every node knows the bytes that it was read from. A tree is faithful if the source says at these
bytes what the node says, and if nothing of the source lies outside of all nodes but what builds
the calls. Merging literals keeps this, and trimming an argument lets go of blanks only.
-/

set_option autoImplicit false

namespace CreatureNaming.Pattern

/-- Cut the blanks off the edges that are marked. -/
def cutEdges (first last : Bool) (text : List Char) : List Char :=
  let text := if first then Text.trimStartChars text else text
  if last then Text.trimEndChars text else text

/-- Nodes that follow each other from one byte to another without gap; each takes some room. -/
def Tiles (start stop : Nat) : List Node → Prop
  | [] => start = stop
  | node :: rest =>
      node.span.start = start ∧ start < node.span.stop ∧ Tiles node.span.stop stop rest

/-- Nothing but blanks stands from one byte to another. -/
def Blank (source : List Char) (start stop : Nat) : Prop :=
  start ≤ stop ∧ ∃ text, (Span.mk start stop).slice source = some text ∧
    ∀ c ∈ text, Text.isBlank c = true

/-- The nodes of an argument follow each other without gap, but for blanks at its edges. -/
def Fills (source : List Char) (start stop : Nat) (nodes : List Node) : Prop :=
  ∃ first last, Blank source start first ∧ Tiles first last nodes ∧ Blank source last stop

/-- Arguments that follow each other, with a pipe between each and the next one. -/
def Parted (source : List Char) (start stop : Nat) : List (List Node) → Prop
  | [] => False
  | [nodes] => Fills source start stop nodes
  | nodes :: next :: rest => ∃ pipe, Fills source start pipe nodes ∧
      (Span.mk pipe (pipe + 1)).slice source = some ['|'] ∧
      Parted source (pipe + 1) stop (next :: rest)

mutual

/-- A node stands for what its range says; a literal that is the first or the last node of an
argument does so without the blanks at that edge. -/
def Node.Faithful (source : List Char) (first last : Bool) : Node → Prop
  | .literal span text => ∃ raw, raw ≠ [] ∧ span.slice source = some raw ∧
      text.toList = cutEdges first last (unescape raw)
  | .token span name => isIdentifier name = true ∧
      span.slice source = some ('{' :: (name.toList ++ ['}']))
  | .call span nameSpan name arguments => ∃ nameText body,
      span.slice source = some ('{' :: '{' :: '#' :: (nameText ++ ':' :: (body ++ ['}', '}']))) ∧
      nameSpan = ⟨span.start + 3, span.start + 3 + Text.byteLength nameText⟩ ∧
      nameSpan.slice source = some nameText ∧
      name.toList = Text.trimChars nameText ∧ isIdentifier name = true ∧
      Parted source (nameSpan.stop + 1) (span.stop - 2) arguments ∧
      everyFaithful source arguments

def everyFaithful (source : List Char) : List (List Node) → Prop
  | [] => True
  | nodes :: rest => edgesFaithful source true nodes ∧ everyFaithful source rest

/-- The nodes of an argument, or those behind its first one, stand for what their ranges say. -/
def edgesFaithful (source : List Char) (first : Bool) : List Node → Prop
  | [] => True
  | node :: rest => node.Faithful source first rest.isEmpty ∧ edgesFaithful source false rest

end

variable {source : List Char} {start middle stop : Nat} {first second : Span}
  {text next : List Char} {node : Node} {nodes rest : List Node}

/-- Only literals care where in an argument they stand. -/
theorem Node.Faithful.anywhere {first last : Bool} (faithful : node.Faithful source first last)
    (built : node.isLiteral = false) (newFirst newLast : Bool) :
    node.Faithful source newFirst newLast := by
  cases node with
  | literal span text => cases built
  | token span name => simpa only [Node.Faithful] using faithful
  | call span nameSpan name arguments => simpa only [Node.Faithful] using faithful

theorem edgesFaithful.anywhere (faithful : edgesFaithful source false (node :: rest))
    (built : node.isLiteral = false) (first : Bool) :
    edgesFaithful source first (node :: rest) := by
  rw [edgesFaithful] at faithful ⊢
  exact ⟨faithful.1.anywhere built _ _, faithful.2⟩

/-! ## Nodes without gap -/

theorem Tiles.append {before after : List Node} (left : Tiles start middle before)
    (right : Tiles middle stop after) : Tiles start stop (before ++ after) := by
  induction before generalizing start with
  | nil =>
    obtain rfl := left
    exact right
  | cons node rest ih => exact ⟨left.1, left.2.1, ih left.2.2⟩

theorem Tiles.single (starts : node.span.start = start) (room : start < node.span.stop) :
    Tiles start node.span.stop [node] :=
  ⟨starts, room, rfl⟩

theorem Blank.nothing (stands : Span.dropBytes start source = some text) :
    Blank source start start := by
  refine ⟨Nat.le_refl start, [], ?_, by simp⟩
  rw [Span.slice, stands, Option.bind_some, Nat.sub_self, Span.takeBytes]

theorem Parted.pipe (fills : Fills source start middle nodes)
    (separates : (Span.mk middle (middle + 1)).slice source = some ['|'])
    {others : List (List Node)} (parted : Parted source (middle + 1) stop others) :
    Parted source start stop (nodes :: others) := by
  cases others with
  | nil => cases parted
  | cons next rest => exact ⟨middle, fills, separates, parted⟩

/-! ## Literals before they are merged -/

/-- What a range says reads as a text, and so does the source from there on. -/
def Reads (source : List Char) (span : Span) (text : List Char) : Prop :=
  ∃ raw later, raw ≠ [] ∧ Span.dropBytes span.start source = some (raw ++ later) ∧
    span.stop = span.start + Text.byteLength raw ∧
    ∀ more, more <+: later → unescape (raw ++ more) = text ++ unescape more

theorem Reads.join (reads : Reads source first text) (follows : Reads source second next)
    (beside : first.stop = second.start) : Reads source (first.through second) (text ++ next) := by
  obtain ⟨raw, later, nonempty, stands, room, unescapes⟩ := reads
  obtain ⟨nextRaw, behind, -, nextStands, nextRoom, nextUnescapes⟩ := follows
  have same : later = nextRaw ++ behind := by
    rw [← beside, room, Span.dropBytes_behind raw stands] at nextStands
    exact Option.some.inj nextStands
  subst same
  refine ⟨raw ++ nextRaw, behind, by simp [nonempty], ?_, ?_, ?_⟩
  · rw [List.append_assoc]
    exact stands
  · rw [Text.byteLength_append]
    simp only [Span.through]
    omega
  · intro more starts
    -- A backslash at the end of the first text sees what the second text begins with.
    rw [List.append_assoc, unescapes _ ((List.prefix_append_right_inj _).mpr starts),
      nextUnescapes more starts, List.append_assoc]

theorem Reads.slice (reads : Reads source first text) :
    ∃ raw, raw ≠ [] ∧ first.slice source = some raw ∧ unescape raw = text := by
  obtain ⟨raw, later, nonempty, stands, room, unescapes⟩ := reads
  refine ⟨raw, nonempty, ?_, ?_⟩
  · rw [show first = ⟨first.start, first.start + Text.byteLength raw⟩ by rw [← room]]
    exact Span.slice_of_dropBytes raw stands
  · simpa [unescape] using unescapes [] List.nil_prefix

theorem Reads.ne_nil (reads : Reads source first text) : text ≠ [] := by
  obtain ⟨raw, nonempty, -, rfl⟩ := reads.slice
  exact ne_nil_of_unescape nonempty

theorem Reads.blank (reads : Reads source first text)
    (blank : ∀ c ∈ text, Text.isBlank c = true) : Blank source first.start first.stop := by
  obtain ⟨raw, -, stands, rfl⟩ := reads.slice
  obtain ⟨_, _, _, _, room, _⟩ := reads
  exact ⟨by omega, raw, stands, all_isBlank_of_unescape blank⟩

/-- A node says what its range says, and literals can still be joined. -/
def Node.Holds (source : List Char) : Node → Prop
  | .literal span text => Reads source span text.toList
  | .token span name => (Node.token span name).Faithful source false false
  | .call span nameSpan name arguments =>
      (Node.call span nameSpan name arguments).Faithful source false false

theorem Node.Holds.faithful (holds : node.Holds source) : node.Faithful source false false := by
  cases node with
  | literal span text =>
    obtain ⟨raw, nonempty, stands, same⟩ := Reads.slice holds
    exact ⟨raw, nonempty, stands, same.symm⟩
  | token span name => exact holds
  | call span nameSpan name arguments => exact holds

theorem Node.Holds.not_isEmptyLiteral (holds : node.Holds source) :
    node.isEmptyLiteral = false := by
  cases node with
  | literal span text => simpa [Node.isEmptyLiteral] using Reads.ne_nil holds
  | token span name => rfl
  | call span nameSpan name arguments => rfl

/-! ## Merging -/

/-- No literal stands beside another one. -/
def Separated (nodes : List Node) : Prop :=
  nodes.IsChain fun first second => first.isLiteral = true → second.isLiteral = false

theorem head?_mergeLiterals (nodes : List Node) :
    (mergeLiterals nodes).head?.map Node.isLiteral = nodes.head?.map Node.isLiteral := by
  fun_induction mergeLiterals nodes with
  | case1 span text nextSpan nextText rest ih =>
    rw [ih]
    rfl
  | case2 node rest unmerged ih => rfl
  | case3 => rfl

theorem apart_of_unmerged
    (unmerged : ∀ span text nextSpan nextText later, node = .literal span text →
      rest = .literal nextSpan nextText :: later → False) :
    node.isLiteral = true → ∀ next ∈ rest.head?, next.isLiteral = false := by
  intro literal next head
  rw [Bool.eq_false_iff]
  intro nextLiteral
  obtain ⟨later, rfl⟩ := List.head?_eq_some_iff.mp head
  cases node <;> cases literal
  cases next <;> cases nextLiteral
  exact unmerged _ _ _ _ later rfl rfl

theorem mergeLiterals_cons
    (apart : node.isLiteral = true → ∀ next ∈ rest.head?, next.isLiteral = false) :
    mergeLiterals (node :: rest) = node :: mergeLiterals rest := by
  apply mergeLiterals.eq_2
  rintro span text nextSpan nextText later rfl rfl
  cases apart rfl _ rfl

theorem separated_mergeLiterals (nodes : List Node) : Separated (mergeLiterals nodes) := by
  fun_induction mergeLiterals nodes with
  | case1 span text nextSpan nextText rest ih => exact ih
  | case2 node rest unmerged ih =>
    refine List.isChain_cons.mpr ⟨?_, ih⟩
    intro next head literal
    have heads := head?_mergeLiterals rest
    rw [Option.mem_def.mp head] at heads
    obtain ⟨second, starts, same⟩ := Option.map_eq_some_iff.mp heads.symm
    rw [← same]
    exact apart_of_unmerged unmerged literal second starts
  | case3 => exact .nil

theorem mergeLiterals_holds (tiles : Tiles start stop nodes)
    (holds : ∀ node ∈ nodes, node.Holds source) :
    Tiles start stop (mergeLiterals nodes) ∧ ∀ node ∈ mergeLiterals nodes, node.Holds source := by
  fun_induction mergeLiterals nodes generalizing start with
  | case1 span text nextSpan nextText rest ih =>
    -- The joined literal takes the room of both, and reads as both.
    obtain ⟨rfl, room, beside, nextRoom, others⟩ := tiles
    simp only [List.forall_mem_cons] at holds
    obtain ⟨reads, next, later⟩ := holds
    refine ih ⟨rfl, Nat.lt_trans room nextRoom, others⟩ ?_
    rw [List.forall_mem_cons]
    exact ⟨by simpa [Node.Holds] using reads.join next beside.symm, later⟩
  | case2 node rest unmerged ih =>
    rw [List.forall_mem_cons] at holds ⊢
    obtain ⟨others, later⟩ := ih tiles.2.2 holds.2
    exact ⟨⟨tiles.1, tiles.2.1, others⟩, holds.1, later⟩
  | case3 => exact ⟨tiles, holds⟩

/-! ## What is built -/

/-- The tokens and calls among some nodes. -/
def built (nodes : List Node) : List Node := nodes.filter fun node => !node.isLiteral

theorem mem_built_iff (other : node.isLiteral = false) : node ∈ built nodes ↔ node ∈ nodes := by
  simp [built, other]

theorem built_mergeLiterals (nodes : List Node) : built (mergeLiterals nodes) = built nodes := by
  fun_induction mergeLiterals nodes with
  | case1 span text nextSpan nextText rest ih => exact ih
  | case2 node rest unmerged ih =>
    simp only [built, List.filter_cons] at ih ⊢
    rw [ih]
  | case3 => rfl

theorem built_mapFirst (trim : String → String) (nodes : List Node) :
    built (mapFirst (Node.mapLiteral trim) nodes) = built nodes := by
  cases nodes with
  | nil => rfl
  | cons node rest => cases node <;> rfl

theorem built_mapLast (trim : String → String) (nodes : List Node) :
    built (mapLast (Node.mapLiteral trim) nodes) = built nodes := by
  fun_induction mapLast (Node.mapLiteral trim) nodes with
  | case1 => rfl
  | case2 last => cases last <;> rfl
  | case3 node rest more ih =>
    simp only [built, List.filter_cons] at ih ⊢
    rw [ih]

/-- An argument loses no token and no call. -/
theorem built_argument (nodes : List Node) : built (argument nodes) = built nodes := by
  have dropped (nodes : List Node) :
      built (nodes.filter fun node => !node.isEmptyLiteral) = built nodes := by
    rw [built, built, List.filter_filter]
    refine List.filter_congr fun node _ => ?_
    cases node <;> simp [Node.isLiteral, Node.isEmptyLiteral]
  rw [argument, dropped, built_mapLast, built_mapFirst, built_mergeLiterals]

theorem mem_mergeLiterals (other : node.isLiteral = false) :
    node ∈ mergeLiterals nodes ↔ node ∈ nodes := by
  rw [← mem_built_iff other, built_mergeLiterals, mem_built_iff other]

theorem mem_argument (other : node.isLiteral = false) : node ∈ argument nodes ↔ node ∈ nodes := by
  rw [← mem_built_iff other, built_argument, mem_built_iff other]

/-! ## Trimming -/

/-- Trim the end of the last node, and drop what is then empty. -/
def cutLast (nodes : List Node) : List Node :=
  (mapLast (Node.mapLiteral Text.trimEnd) nodes).filter fun node => !node.isEmptyLiteral

theorem argument_eq_cutLast (nodes : List Node) :
    argument nodes = cutLast (mapFirst (Node.mapLiteral Text.trimStart) (mergeLiterals nodes)) :=
  rfl

theorem forall_mem_mapFirst {p : Node → Prop} {f : Node → Node}
    (keeps : ∀ node, p node → p (f node)) (all : ∀ node ∈ nodes, p node) :
    ∀ node ∈ mapFirst f nodes, p node := by
  cases nodes with
  | nil => exact all
  | cons first rest =>
    rw [List.forall_mem_cons] at all
    rw [mapFirst, List.forall_mem_cons]
    exact ⟨keeps first all.1, all.2⟩

theorem forall_mem_mapLast {p : Node → Prop} {f : Node → Node}
    (keeps : ∀ node, p node → p (f node)) (all : ∀ node ∈ nodes, p node) :
    ∀ node ∈ mapLast f nodes, p node := by
  induction nodes with
  | nil => exact all
  | cons first rest ih =>
    rw [List.forall_mem_cons] at all
    cases rest with
    | nil =>
      rw [mapLast, List.forall_mem_singleton]
      exact keeps first all.1
    | cons second rest =>
      rw [mapLast, List.forall_mem_cons]
      · exact ⟨all.1, ih all.2⟩
      · exact List.cons_ne_nil second rest

theorem isBlank_or_mem_trimStartChars {c : Char} (member : c ∈ text) :
    Text.isBlank c = true ∨ c ∈ Text.trimStartChars text := by
  rw [← List.takeWhile_append_dropWhile (p := Text.isBlank) (l := text)] at member
  rcases List.mem_append.mp member with taken | kept
  · exact .inl (List.all_eq_true.mp List.all_takeWhile c taken)
  · exact .inr kept

theorem isBlank_or_mem_trimEndChars {c : Char} (member : c ∈ text) :
    Text.isBlank c = true ∨ c ∈ Text.trimEndChars text := by
  rw [← List.mem_reverse] at member
  rcases isBlank_or_mem_trimStartChars member with blank | kept
  · exact .inl blank
  · exact .inr (List.mem_reverse.mpr kept)

/-- Only blanks are cut away at the edges. -/
theorem isBlank_or_mem_cutEdges (first last : Bool) {c : Char} (member : c ∈ text) :
    Text.isBlank c = true ∨ c ∈ cutEdges first last text := by
  cases first with
  | false =>
    cases last with
    | false => exact .inr member
    | true => exact isBlank_or_mem_trimEndChars member
  | true =>
    rcases isBlank_or_mem_trimStartChars member with blank | kept
    · exact .inl blank
    · cases last with
      | false => exact .inr kept
      | true => exact isBlank_or_mem_trimEndChars kept

theorem isBlank_of_cutEdges (first last : Bool)
    (blank : ∀ c ∈ cutEdges first last text, Text.isBlank c = true) :
    ∀ c ∈ text, Text.isBlank c = true := by
  intro c member
  rcases isBlank_or_mem_cutEdges first last member with cut | kept
  · exact cut
  · exact blank c kept

/-- A trimmed node is empty only if it stands for blanks; otherwise it stands for what it did. -/
theorem Node.Holds.trimmed {first last : Bool} {trim : String → String}
    (holds : node.Holds source)
    (cuts : ∀ text, (trim text).toList = cutEdges first last text.toList) :
    (node.mapLiteral trim).span = node.span ∧
      (node.mapLiteral trim).isLiteral = node.isLiteral ∧
      (node.mapLiteral trim).Faithful source first last ∧
      ((node.mapLiteral trim).isEmptyLiteral = true →
        node.isLiteral = true ∧ Blank source node.span.start node.span.stop) := by
  cases node with
  | literal span text =>
    obtain ⟨raw, nonempty, stands, same⟩ := Reads.slice holds
    refine ⟨rfl, rfl, ⟨raw, nonempty, stands, by rw [same, cuts]⟩, ?_⟩
    intro empty
    have nothing : cutEdges first last text.toList = [] := by
      rw [← cuts text]
      simpa [Node.mapLiteral, Node.isEmptyLiteral] using empty
    exact ⟨rfl, Reads.blank holds (isBlank_of_cutEdges _ _ (by rw [nothing]; simp))⟩
  | token span name => exact ⟨rfl, rfl, holds.faithful.anywhere rfl _ _, nofun⟩
  | call span nameSpan name arguments =>
    exact ⟨rfl, rfl, holds.faithful.anywhere rfl _ _, nofun⟩

theorem cutLast_cons (filled : node.isEmptyLiteral = false) (second : Node) (rest : List Node) :
    cutLast (node :: second :: rest) = node :: cutLast (second :: rest) := by
  simp [cutLast, mapLast, filled]

theorem cutLast_built (built : node.isLiteral = false) (rest : List Node) :
    cutLast (node :: rest) = node :: cutLast rest := by
  cases node with
  | literal span text => cases built
  | token span name => cases rest <;> rfl
  | call span nameSpan name arguments => cases rest <;> rfl

theorem cutLast_empty (empty : node.isEmptyLiteral = true) (second : Node) (rest : List Node) :
    cutLast (node :: second :: rest) = cutLast (second :: rest) := by
  simp [cutLast, mapLast, empty]

/-- The last node of an argument, whether or not it is the first one as well. -/
theorem Node.Holds.trimmed_fills {first : Bool} {trim : String → String}
    (holds : node.Holds source) (room : node.span.start < node.span.stop)
    (cuts : ∀ text, (trim text).toList = cutEdges first true text.toList)
    (stands : Span.dropBytes node.span.stop source = some text) :
    ∃ last, Tiles node.span.start last ([node.mapLiteral trim].filter fun node =>
        !node.isEmptyLiteral) ∧ Blank source last node.span.stop ∧
      edgesFaithful source first ([node.mapLiteral trim].filter fun node =>
        !node.isEmptyLiteral) := by
  obtain ⟨span, -, faithful, empty⟩ := holds.trimmed cuts
  cases kept : (node.mapLiteral trim).isEmptyLiteral with
  | true =>
    rw [List.filter_cons_of_neg (by simp [kept])]
    exact ⟨node.span.start, rfl, (empty kept).2, trivial⟩
  | false =>
    rw [List.filter_cons_of_pos (by simp [kept])]
    refine ⟨node.span.stop, ?_, .nothing stands, faithful, trivial⟩
    rw [← span] at room ⊢
    exact .single rfl room

/-- Behind the first node of an argument only the last one changes. -/
theorem cutLast_fills (tiles : Tiles start stop nodes) (holds : ∀ node ∈ nodes, node.Holds source)
    (separated : Separated nodes) (stands : Span.dropBytes stop source = some text) :
    ∃ last, Tiles start last (cutLast nodes) ∧ Blank source last stop ∧
      edgesFaithful source false (cutLast nodes) := by
  induction nodes generalizing start with
  | nil =>
    obtain rfl := tiles
    exact ⟨start, rfl, .nothing stands, trivial⟩
  | cons node rest ih =>
    obtain ⟨rfl, room, others⟩ := tiles
    rw [List.forall_mem_cons] at holds
    cases rest with
    | nil =>
      obtain rfl := others
      exact holds.1.trimmed_fills room (by simp [cutEdges, Text.trimEnd]) stands
    | cons second rest =>
      obtain ⟨last, tiled, blank, faithful⟩ := ih others holds.2 (List.IsChain.tail separated)
      rw [cutLast_cons holds.1.not_isEmptyLiteral]
      refine ⟨last, ⟨rfl, room, tiled⟩, blank, ?_, faithful⟩
      -- A literal has a neighbour that is not dropped, so it does not become the last node.
      cases literal : node.isLiteral with
      | false => exact holds.1.faithful.anywhere literal _ _
      | true =>
        rw [cutLast_built ((List.isChain_cons_cons.mp separated).1 literal)]
        exact holds.1.faithful

theorem argument_fills (tiles : Tiles start stop nodes)
    (holds : ∀ node ∈ nodes, node.Holds source)
    (opens : Span.dropBytes start source = some next)
    (stands : Span.dropBytes stop source = some text) :
    Fills source start stop (argument nodes) ∧ edgesFaithful source true (argument nodes) := by
  obtain ⟨tiles, holds⟩ := mergeLiterals_holds tiles holds
  have separated := separated_mergeLiterals nodes
  rw [argument_eq_cutLast]
  cases merged : mergeLiterals nodes with
  | nil =>
    rw [merged] at tiles
    obtain rfl := tiles
    exact ⟨⟨start, start, .nothing opens, rfl, .nothing stands⟩, trivial⟩
  | cons node rest =>
    rw [merged] at tiles holds separated
    obtain ⟨rfl, room, others⟩ := tiles
    rw [List.forall_mem_cons] at holds
    cases rest with
    | nil =>
      obtain rfl := others
      have both : (node.mapLiteral Text.trimStart).mapLiteral Text.trimEnd =
          node.mapLiteral Text.trim := by
        cases node <;> simp [Node.mapLiteral, Text.trimEnd, Text.trimStart, Text.trim,
          Text.trimChars]
      have cuts (text : String) : (Text.trim text).toList = cutEdges true true text.toList := by
        simp [cutEdges, Text.trim, Text.trimChars]
      obtain ⟨last, tiled, blank, faithful⟩ := holds.1.trimmed_fills room cuts stands
      simp only [mapFirst, cutLast, mapLast, both]
      exact ⟨⟨_, last, .nothing opens, tiled, blank⟩, faithful⟩
    | cons second rest =>
      obtain ⟨last, tiled, blank, faithful⟩ :=
        cutLast_fills others holds.2 (List.IsChain.tail separated) stands
      have beside := (List.isChain_cons_cons.mp separated).1
      have cuts (text : String) :
          (Text.trimStart text).toList = cutEdges true false text.toList := by
        simp [cutEdges, Text.trimStart]
      obtain ⟨span, same, trimmed, empty⟩ := holds.1.trimmed cuts
      rw [mapFirst]
      cases kept : (node.mapLiteral Text.trimStart).isEmptyLiteral with
      | true =>
        -- Only a literal can be dropped, and what follows it is none.
        rw [cutLast_empty kept]
        obtain ⟨literal, leading⟩ := empty kept
        refine ⟨⟨_, last, leading, tiled, blank⟩, ?_⟩
        rw [cutLast_built (beside literal)] at faithful ⊢
        exact faithful.anywhere (beside literal) true
      | false =>
        rw [cutLast_cons kept]
        refine ⟨⟨_, last, .nothing opens, ⟨span ▸ rfl, span ▸ room, span ▸ tiled⟩, blank⟩,
          ?_, faithful⟩
        cases literal : node.isLiteral with
        | false => exact trimmed.anywhere (same.trans literal) _ _
        | true =>
          rw [cutLast_built (beside literal)]
          exact trimmed

end CreatureNaming.Pattern
