import CreatureNaming.Proofs.Pattern.Derivations
import CreatureNaming.Proofs.Pattern.Faithful
import CreatureNaming.Naming.Render

/-! Parsing loses nothing of a pattern.

Each construct is read from the text that spells its lexemes, and the next one is read from what
stands behind that text. An induction over the derivation of a tree carries this through nested
calls, with the nodes of the present argument tiling what was read of it so far.
-/

set_option autoImplicit false

namespace CreatureNaming.Pattern

variable {source text : List Char} {start stop begin : Nat} {input rest : List Lexeme} {node : Node}
  {done nodes : List Node} {arguments : List (List Node)}

/-- A node stands for the first part of a text, and lexemes spell what follows it. -/
def Placed (source : List Char) (start : Nat) (text : List Char) (node : Node)
    (rest : List Lexeme) : Prop :=
  ∃ raw later, raw ≠ [] ∧ text = raw ++ later ∧
    node.span = ⟨start, start + Text.byteLength raw⟩ ∧ node.Holds source ∧
    Spelled (start + Text.byteLength raw) rest later

/-- The text goes on behind a node, and the node goes on where others have come to an end. -/
theorem Placed.behind (placed : Placed source start text node rest)
    (stands : Span.dropBytes start source = some text) (tiles : Tiles begin start nodes)
    (holds : ∀ node ∈ nodes, node.Holds source) :
    ∃ raw later, text = raw ++ later ∧
      Span.dropBytes (start + Text.byteLength raw) source = some later ∧
      Tiles begin (start + Text.byteLength raw) (nodes ++ [node]) ∧
      (∀ other ∈ nodes ++ [node], other.Holds source) ∧
      Spelled (start + Text.byteLength raw) rest later := by
  obtain ⟨raw, later, nonempty, rfl, span, nodeHolds, spelled⟩ := placed
  have size := Text.byteLength_pos nonempty
  have tile : Tiles start (start + Text.byteLength raw) [node] := by
    simp [Tiles, span, size]
  have allHold : ∀ other ∈ nodes ++ [node], other.Holds source := by
    simp only [List.forall_mem_append, List.forall_mem_singleton]
    exact ⟨holds, nodeHolds⟩
  exact ⟨raw, later, rfl, Span.dropBytes_behind raw stands, tiles.append tile, allHold, spelled⟩

theorem placed_literal {first : Lexeme} (stands : Span.dropBytes start source = some text)
    (spelled : Spelled start (first :: rest) text) :
    Placed source start text first.toNode rest := by
  cases spelled with
  | cons raw range spells others =>
    refine ⟨raw, _, spells.ne_nil, rfl, range, ?_, others⟩
    exact ⟨raw, _, spells.ne_nil, by rwa [range], by rw [range], spells.unescape⟩

theorem placed_reference {name : String} {span : Span}
    (stands : Span.dropBytes start source = some text) (spelled : Spelled start input text)
    (refers : reference? input = some (name, span, rest)) :
    Placed source start text (.token span name) rest := by
  obtain ⟨later, rfl, rfl, identifier, behind⟩ := spelled.reference refers
  have size : start + 1 + Text.byteLength name.toList + 1 =
      start + Text.byteLength ('{' :: (name.toList ++ ['}'])) := by
    simp [byteLength_structural, isStructural, Text.byteLength_append]
    omega
  rw [show '{' :: (name.toList ++ '}' :: later) = '{' :: (name.toList ++ ['}']) ++ later by simp]
    at stands ⊢
  rw [size] at behind ⊢
  exact ⟨_, later, by simp, rfl, rfl, ⟨identifier, Span.slice_of_dropBytes _ stands⟩, behind⟩

/-- Arguments that began at `begin` fill a text up to two closing braces, and lexemes spell what
follows. -/
def ArgumentsPlaced (source : List Char) (begin start : Nat) (text : List Char)
    (arguments : List (List Node)) (stop : Nat) (rest : List Lexeme) : Prop :=
  ∃ body later, text = body ++ '}' :: '}' :: later ∧ stop = start + Text.byteLength body + 2 ∧
    Spelled stop rest later ∧ Parted source begin (start + Text.byteLength body) arguments ∧
    everyFaithful source arguments

theorem ArgumentsPlaced.before {raw later : List Char}
    (placed : ArgumentsPlaced source begin (start + Text.byteLength raw) later arguments stop
      rest) :
    ArgumentsPlaced source begin start (raw ++ later) arguments stop rest := by
  obtain ⟨body, behind, rfl, rfl, spelled, parted, faithful⟩ := placed
  have size : start + Text.byteLength (raw ++ body) =
      start + Text.byteLength raw + Text.byteLength body := by
    rw [Text.byteLength_append, Nat.add_assoc]
  exact ⟨raw ++ body, behind, by simp, by rw [size], spelled, by rwa [size], faithful⟩

/-- A node becomes the next one of the present argument. -/
theorem ArgumentsPlaced.cons {behind : List Lexeme} (placed : Placed source start text node behind)
    (stands : Span.dropBytes start source = some text) (tiles : Tiles begin start done.reverse)
    (holds : ∀ other ∈ done.reverse, other.Holds source)
    (others : ∀ start text, Span.dropBytes start source = some text →
      Spelled start behind text → Tiles begin start (node :: done).reverse →
      (∀ other ∈ (node :: done).reverse, other.Holds source) →
      ArgumentsPlaced source begin start text arguments stop rest) :
    ArgumentsPlaced source begin start text arguments stop rest := by
  obtain ⟨raw, later, rfl, stands, tiles, holds, spelled⟩ := placed.behind stands tiles holds
  rw [← List.reverse_cons] at tiles holds
  exact (others _ _ stands spelled tiles holds).before

theorem placed_call {found : Opening} {body : List Lexeme}
    (stands : Span.dropBytes start source = some text) (spelled : Spelled start input text)
    (opens : opening? input = some (found, body))
    (inside : ∀ start text, Span.dropBytes start source = some text → Spelled start body text →
      ArgumentsPlaced source start start text arguments stop rest) :
    Placed source start text
      (.call ⟨found.start, stop⟩ found.nameSpan found.name arguments) rest := by
  obtain ⟨nameText, later, rfl, starts, nameSpan, trimmed, identifier, behind⟩ :=
    spelled.opening opens
  -- Where the name begins, where the colon does, and where the arguments do.
  have named : Span.dropBytes (start + 3) source = some (nameText ++ ':' :: later) :=
    Span.dropBytes_behind ['{', '{', '#'] stands
  have coloned := Span.dropBytes_behind nameText named
  have filled : Span.dropBytes (start + 3 + Text.byteLength nameText + 1) source = some later :=
    Span.dropBytes_behind [':'] coloned
  obtain ⟨body, after, rfl, rfl, spelled, parted, faithful⟩ := inside _ _ filled behind
  let raw := '{' :: '{' :: '#' :: (nameText ++ ':' :: (body ++ ['}', '}']))
  have size : start + 3 + Text.byteLength nameText + 1 + Text.byteLength body + 2 =
      start + Text.byteLength raw := by
    simp [raw, byteLength_structural, isStructural, Text.byteLength_append]
    omega
  have whole : '{' :: '{' :: '#' :: (nameText ++ ':' :: (body ++ '}' :: '}' :: after)) =
      raw ++ after := by
    simp [raw]
  rw [whole] at stands ⊢
  rw [size] at spelled ⊢
  refine ⟨raw, after, by simp [raw], rfl, by simp [Node.span, starts], ?_, spelled⟩
  refine ⟨nameText, body, ?_, ?_, ?_, trimmed, identifier, ?_, faithful⟩
  · rw [starts]
    exact Span.slice_of_dropBytes _ stands
  · rw [nameSpan, starts]
  · rw [nameSpan]
    exact Span.slice_of_dropBytes _ named
  · rw [nameSpan, ← size]
    exact parted

/-- What is read of the arguments of a call. The nodes of the present argument began at `begin`. -/
theorem ArgumentsRead.placed {opened : List Char}
    (read : ArgumentsRead done input arguments stop rest)
    (stands : Span.dropBytes start source = some text) (spelled : Spelled start input text)
    (begins : Span.dropBytes begin source = some opened) (tiles : Tiles begin start done.reverse)
    (holds : ∀ node ∈ done.reverse, node.Holds source) :
    ArgumentsPlaced source begin start text arguments stop rest := by
  induction read generalizing start begin text opened with
  | closing closes =>
    obtain ⟨later, rfl, rfl, behind⟩ := spelled.closing closes
    obtain ⟨fills, faithful⟩ := argument_fills tiles holds begins stands
    exact ⟨[], later, rfl, rfl, behind, fills, faithful, trivial⟩
  | pipe separates others ih =>
    -- The next argument begins behind the pipe, with no node of it read yet.
    obtain ⟨later, rfl, behind⟩ := spelled.pipe separates
    obtain ⟨fills, faithful⟩ := argument_fills tiles holds begins stands
    have next : Span.dropBytes (start + 1) source = some later := Span.dropBytes_behind ['|'] stands
    obtain ⟨body, after, rfl, rfl, spelled, parted, others⟩ := ih next behind next rfl (by simp)
    have bar : Text.byteLength ('|' :: body) = Text.byteLength body + 1 :=
      byteLength_structural rfl body
    refine ⟨'|' :: body, after, rfl, by omega, spelled, ?_, faithful, others⟩
    rw [bar, Nat.add_comm _ 1, ← Nat.add_assoc]
    exact .pipe fills (Span.slice_of_dropBytes ['|'] stands) parted
  | call opens inside others ihInside ihOthers =>
    have placed := placed_call stands spelled opens fun _ _ stands spelled =>
      ihInside stands spelled stands rfl (by simp)
    exact .cons placed stands tiles holds fun _ _ stands spelled =>
      ihOthers stands spelled begins
  | reference refers others ih =>
    have placed := placed_reference stands spelled refers
    exact .cons placed stands tiles holds fun _ _ stands spelled => ih stands spelled begins
  | literal inside unclosed others ih =>
    have placed := placed_literal stands spelled
    exact .cons placed stands tiles holds fun _ _ stands spelled => ih stands spelled begins

theorem Placed.cons (placed : Placed source start text node rest)
    (stands : Span.dropBytes start source = some text)
    (others : ∀ start text, Span.dropBytes start source = some text → Spelled start rest text →
      Tiles start (start + Text.byteLength text) nodes ∧ ∀ node ∈ nodes, node.Holds source) :
    Tiles start (start + Text.byteLength text) (node :: nodes) ∧
      ∀ other ∈ node :: nodes, other.Holds source := by
  have nothing : Tiles start start [] := rfl
  obtain ⟨raw, later, rfl, stands, tiles, holds, behind⟩ := placed.behind stands nothing (by simp)
  obtain ⟨others, othersHold⟩ := others _ _ stands behind
  rw [Text.byteLength_append, ← Nat.add_assoc]
  refine ⟨tiles.append others, ?_⟩
  exact List.forall_mem_cons.mpr ⟨holds node (by simp), othersHold⟩

theorem NodesRead.placed (read : NodesRead input nodes)
    (stands : Span.dropBytes start source = some text) (spelled : Spelled start input text) :
    Tiles start (start + Text.byteLength text) nodes ∧ ∀ node ∈ nodes, node.Holds source := by
  induction read generalizing start text with
  | nil =>
    cases spelled
    exact ⟨rfl, by simp⟩
  | call opens inside others ih =>
    have placed := placed_call stands spelled opens fun _ _ stands spelled =>
      inside.placed stands spelled stands rfl (by simp)
    exact placed.cons stands fun _ _ => ih
  | reference refers others ih =>
    exact (placed_reference stands spelled refers).cons stands fun _ _ => ih
  | literal others ih => exact (placed_literal stands spelled).cons stands fun _ _ => ih

/-! ## The whole pattern -/

theorem parse_holds (source : String) :
    Tiles 0 (Text.byteLength source.toList) (parse source) ∧
      ∀ node ∈ parse source, node.Holds source.toList := by
  -- Pairing turns braces into text, which leaves what they are spelled by.
  have spelled : Spelled 0 (pairCalls (lexemes source)) source.toList :=
    (lexemesFrom_spelled 0 source.toList).demoted (pairFrom_demotes 0 _)
  obtain ⟨tiles, holds⟩ := (nodesRead (pairCalls (lexemes source))).placed
    (Span.dropBytes_zero source.toList) spelled
  rw [Nat.zero_add] at tiles
  exact mergeLiterals_holds tiles holds

theorem render_literals (source : String) (plain : isPlain (parse source) = true)
    (context : Context) (unique : Unique) :
    context.render unique (parse source) = ⟨.ofList (unescape source.toList), false⟩ := by
  obtain ⟨tiles, holds⟩ := parse_holds source
  have separated : Separated (parse source) := separated_mergeLiterals _
  generalize parse source = nodes at *
  cases nodes with
  | nil =>
    have nothing : source.toList = [] := by
      by_contra nonempty
      exact Nat.ne_of_lt (Text.byteLength_pos nonempty) tiles
    rw [nothing]
    rfl
  | cons node rest =>
    simp only [isPlain, List.all_cons, Bool.and_eq_true] at plain
    -- A second literal would have been merged into the first one.
    have single : rest = [] := by
      cases rest with
      | nil => rfl
      | cons second rest =>
        have built := (List.isChain_cons_cons.mp separated).1 plain.1
        simp [built] at plain
    subst single
    cases node with
    | literal span text =>
      obtain ⟨starts, -, stops⟩ := tiles
      have reads : Reads source.toList span text.toList := holds _ List.mem_cons_self
      obtain ⟨raw, -, stands, read⟩ := reads.slice
      have whole : span = ⟨0, 0 + Text.byteLength source.toList⟩ := by
        rw [Nat.zero_add, ← stops, ← starts]
        rfl
      have all : Span.dropBytes 0 source.toList = some (source.toList ++ []) := by
        rw [List.append_nil, Span.dropBytes_zero]
      rw [whole, Span.slice_of_dropBytes source.toList all] at stands
      cases stands
      simp [Context.render, Context.renderNode, Rendered.append, Rendered.empty, read]
    | token span name => cases plain.1
    | call span nameSpan name arguments => cases plain.1

/-- The nodes of a pattern tile its source, each of them stands for what the source says at its
bytes, and a pattern without constructs renders to its source with the escapes read. -/
theorem parse_lossless (source : String) :
    Tiles 0 (Text.byteLength source.toList) (parse source) ∧
      (∀ node ∈ parse source, node.Faithful source.toList false false) ∧
      (isPlain (parse source) = true → ∀ (context : Context) (unique : Unique),
        context.render unique (parse source) = ⟨.ofList (unescape source.toList), false⟩) := by
  obtain ⟨tiles, holds⟩ := parse_holds source
  exact ⟨tiles, fun node member => (holds node member).faithful, render_literals source⟩

/-- An escape, an open brace that begins nothing, and a backslash that escapes nothing. -/
theorem parse_lossless_loneBackslash :
    let context : Context :=
      { creature := {}, siblings := [], now := ⟨⟨0, 0⟩, 0⟩, random := fun _ => "000000" }
    let source := "\\\x7b\x7b#é\\b"
    let node : Node := .literal ⟨0, 8⟩ "\x7b\x7b#é\\b"
    node ∈ parse source ∧ node.Faithful source.toList false false ∧
      isPlain (parse source) = true ∧
      context.render .placeholder (parse source) = ⟨"\x7b\x7b#é\\b", false⟩ := by
  intro context source node
  have lexed : pairCalls (lexemes source) =
      [⟨.escaped '\x7b', ⟨0, 2⟩⟩, ⟨.braceOpen, ⟨2, 3⟩⟩, ⟨.hash, ⟨3, 4⟩⟩, ⟨.text "é", ⟨4, 6⟩⟩,
        ⟨.backslash, ⟨6, 7⟩⟩, ⟨.text "b", ⟨7, 8⟩⟩] := by decide +kernel
  have parsed : parse source = [node] := by
    rw [parse, lexed, grammar]
    iterate 6 rw [nodesFrom_literal (readCall?_none rfl) rfl]
    rw [nodesFrom_nil]
    simp [mergeLiterals, Span.through, Lexeme.literal, node]
  have member : node ∈ parse source := by
    rw [parsed]
    exact List.mem_singleton_self node
  have plain : isPlain (parse source) = true := by
    rw [parsed]
    rfl
  obtain ⟨-, faithful, rendered⟩ := parse_lossless source
  refine ⟨member, faithful node member, plain, ?_⟩
  rw [rendered plain context .placeholder]
  decide

end CreatureNaming.Pattern
