import CreatureNaming.Proofs.Pattern.Faithful

/-! Trees whose nodes stand elsewhere.

What merging and trimming do to a list of nodes depends on the texts of its literals alone. So the
places of all nodes can be changed before or after, as long as two places that follow each other
still do.
-/

set_option autoImplicit false

namespace CreatureNaming.Pattern

mutual

/-- Change the places of a node and of all nodes in it. -/
def Node.mapSpan (place : Span → Span) : Node → Node
  | .literal span text => .literal (place span) text
  | .token span name => .token (place span) name
  | .call span nameSpan name arguments =>
      .call (place span) (place nameSpan) name (mapSpansOfArguments place arguments)

def mapSpansOfArguments (place : Span → Span) : List (List Node) → List (List Node)
  | [] => []
  | nodes :: rest => mapSpans place nodes :: mapSpansOfArguments place rest

def mapSpans (place : Span → Span) : List Node → List Node
  | [] => []
  | node :: rest => node.mapSpan place :: mapSpans place rest

end

variable {place : Span → Span} {nodes : List Node} {node : Node}

theorem mapSpans_eq_map (place : Span → Span) (nodes : List Node) :
    mapSpans place nodes = nodes.map (Node.mapSpan place) := by
  induction nodes with
  | nil => rfl
  | cons node rest ih => rw [mapSpans, ih, List.map_cons]

theorem mapSpans_append (place : Span → Span) (first second : List Node) :
    mapSpans place (first ++ second) = mapSpans place first ++ mapSpans place second := by
  simp only [mapSpans_eq_map, List.map_append]

theorem mapSpans_reverse (place : Span → Span) (nodes : List Node) :
    mapSpans place nodes.reverse = (mapSpans place nodes).reverse := by
  simp only [mapSpans_eq_map, List.map_reverse]

@[simp] theorem Node.isLiteral_mapSpan (place : Span → Span) (node : Node) :
    (node.mapSpan place).isLiteral = node.isLiteral := by
  cases node <;> rfl

@[simp] theorem Node.isEmptyLiteral_mapSpan (place : Span → Span) (node : Node) :
    (node.mapSpan place).isEmptyLiteral = node.isEmptyLiteral := by
  cases node <;> rfl

theorem Node.mapLiteral_mapSpan (place : Span → Span) (change : String → String) (node : Node) :
    (node.mapLiteral change).mapSpan place = (node.mapSpan place).mapLiteral change := by
  cases node <;> rfl

theorem mapSpans_mergeLiterals
    (joins : ∀ first second : Span, place (first.through second) =
      (place first).through (place second)) (nodes : List Node) :
    mapSpans place (mergeLiterals nodes) = mergeLiterals (mapSpans place nodes) := by
  fun_induction mergeLiterals nodes with
  | case1 span text nextSpan nextText rest ih =>
    simp only [mapSpans, Node.mapSpan] at ih ⊢
    rw [ih, mergeLiterals.eq_1, joins]
  | case2 node rest unmerged ih =>
    -- Whether two nodes are literals does not depend on where they stand.
    rw [mapSpans, mapSpans, ih, mergeLiterals_cons]
    intro literal next head
    rw [Node.isLiteral_mapSpan] at literal
    rw [mapSpans_eq_map, List.head?_map] at head
    obtain ⟨second, starts, rfl⟩ := Option.map_eq_some_iff.mp head
    rw [Node.isLiteral_mapSpan]
    exact apart_of_unmerged unmerged literal second starts
  | case3 => simp [mapSpans, mergeLiterals]

theorem mapSpans_mapFirst (place : Span → Span) (change : String → String) (nodes : List Node) :
    mapSpans place (mapFirst (Node.mapLiteral change) nodes) =
      mapFirst (Node.mapLiteral change) (mapSpans place nodes) := by
  cases nodes with
  | nil => rfl
  | cons node rest => rw [mapFirst, mapSpans, mapSpans, mapFirst, Node.mapLiteral_mapSpan]

theorem mapSpans_mapLast (place : Span → Span) (change : String → String) (nodes : List Node) :
    mapSpans place (mapLast (Node.mapLiteral change) nodes) =
      mapLast (Node.mapLiteral change) (mapSpans place nodes) := by
  induction nodes with
  | nil => rfl
  | cons node rest ih =>
    cases rest with
    | nil => simp only [mapLast, mapSpans, Node.mapLiteral_mapSpan]
    | cons next rest =>
      simp only [mapSpans] at ih ⊢
      simp only [mapLast, mapSpans, ih]

theorem mapSpans_cutLast (place : Span → Span) (nodes : List Node) :
    mapSpans place (cutLast nodes) = cutLast (mapSpans place nodes) := by
  unfold cutLast
  rw [← mapSpans_mapLast, mapSpans_eq_map, mapSpans_eq_map, List.filter_map]
  congr 2
  funext node
  simp

theorem mapSpans_argument
    (joins : ∀ first second : Span, place (first.through second) =
      (place first).through (place second)) (nodes : List Node) :
    mapSpans place (argument nodes) = argument (mapSpans place nodes) := by
  rw [argument_eq_cutLast, mapSpans_cutLast, mapSpans_mapFirst, mapSpans_mergeLiterals joins,
    argument_eq_cutLast]

end CreatureNaming.Pattern
