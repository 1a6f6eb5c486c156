import CreatureNaming.Proofs.Pattern.Lossless
import CreatureNaming.Proofs.Pattern.Openings

/-! Every opening of a call belongs to one node.

Where a source opens calls, its tree has a call, or the opening stands in the source text of a
literal. The openings from one byte of the source on are counted: those of the nodes read so far
are the ones that the source has before the next node begins.
-/

set_option autoImplicit false

namespace CreatureNaming.Pattern

open Text (escapesNext)

variable {source text later : List Char} {offset start stop begin : Nat}
  {input rest : List Lexeme} {span : Span} {node : Node} {done nodes : List Node}
  {arguments : List (List Node)}

/-! ## Openings of a tree and of its source -/

/-- The openings that belong to a node alone: its own if it is a call, and those of its source
text if it is a literal. -/
def Node.openings (source : List Char) : Node → List Nat
  | .literal span _ =>
      match span.slice source with
      | none => []
      | some text => openingsFrom span.start false text
  | .token _ _ => []
  | .call span _ _ _ => [span.start]

def openingsIn (source : List Char) (nodes : List Node) : List Nat :=
  (flatten nodes).flatMap (Node.openings source)

/-- The openings of the source from a byte on. -/
def openingsAfter (source : List Char) (start : Nat) : List Nat :=
  match Span.dropBytes start source with
  | none => []
  | some text => openingsFrom start false text

/-- What the source opens where a construct begins are the openings of its nodes, up to its end. -/
def Node.Accounts (source : List Char) (node : Node) : Prop :=
  node.isLiteral = false → openingsAfter source node.span.start =
    node.flatten.flatMap (Node.openings source) ++ openingsAfter source node.span.stop

theorem openingsAfter_stands (stands : Span.dropBytes start source = some text) :
    openingsAfter source start = openingsFrom start false text := by
  rw [openingsAfter, stands]

theorem openingsIn_cons (node : Node) (rest : List Node) :
    openingsIn source (node :: rest) =
      node.flatten.flatMap (Node.openings source) ++ openingsIn source rest := by
  rw [openingsIn, flatten, List.flatMap_append]
  rfl

/-! ## Constructs -/

/-- A character that is neither a backslash nor an open brace is passed over. -/
theorem openingsAfter_character {c : Char} (stands : Span.dropBytes start source = some (c :: text))
    (unescaped : c ≠ '\\') (unopened : startsOpening (c :: text) = false) :
    openingsAfter source start = openingsAfter source (start + c.utf8Size) := by
  have behind : Span.dropBytes (start + c.utf8Size) source = some text :=
    Span.dropBytes_behind [c] stands
  rw [openingsAfter_stands stands, openingsAfter_stands behind, openingsFrom_step unopened,
    beq_false_of_ne unescaped]
  rfl

theorem openingsAfter_run {run : List Char} (plain : ∀ c ∈ run, isStructural c = false)
    (stands : Span.dropBytes start source = some (run ++ later)) :
    openingsAfter source start = openingsAfter source (start + Text.byteLength run) := by
  rw [openingsAfter_stands stands, openingsAfter_stands (Span.dropBytes_behind run stands)]
  exact openingsFrom_run plain

/-- No character of a name can build a construct, the blanks around the name included. -/
theorem plain_of_trimmed {name : String} {nameText : List Char}
    (trimmed : name.toList = Text.trimChars nameText) (identifier : isIdentifier name = true) :
    ∀ c ∈ nameText, isStructural c = false := by
  intro c member
  obtain ⟨-, plain⟩ := isIdentifier_plain identifier
  rcases isBlank_or_mem_cutEdges true true member with blank | kept
  · exact not_isStructural_of_isBlank blank
  · have named : c ∈ name.toList := by
      rw [trimmed]
      exact kept
    exact (plain c named).1

theorem accounts_literal (text : String) : (Node.literal span text).Accounts source := nofun

theorem accounts_reference {name : String} (stands : Span.dropBytes start source = some text)
    (spelled : Spelled start input text) (refers : reference? input = some (name, span, rest)) :
    (Node.token span name).Accounts source := by
  intro _
  obtain ⟨later, rfl, rfl, identifier, -⟩ := spelled.reference refers
  obtain ⟨-, plain⟩ := isIdentifier_plain identifier
  have unopened : startsOpening ('{' :: (name.toList ++ '}' :: later)) = false := by
    obtain ⟨first, rest, chars, other⟩ := head_identifier identifier
    have notBrace : first ≠ '{' := by
      rintro rfl
      cases other
    simp [startsOpening, chars, notBrace]
  have named : Span.dropBytes (start + 1) source = some (name.toList ++ '}' :: later) :=
    Span.dropBytes_behind ['{'] stands
  have closed := Span.dropBytes_behind name.toList named
  calc openingsAfter source start
      = openingsAfter source (start + 1) :=
        openingsAfter_character stands (by decide) unopened
    _ = openingsAfter source (start + 1 + Text.byteLength name.toList) :=
        openingsAfter_run (fun c member => (plain c member).1) named
    _ = openingsAfter source (start + 1 + Text.byteLength name.toList + 1) :=
        openingsAfter_character closed (by decide) rfl

/-- A call accounts for what the source opens within it if its arguments do. -/
theorem accounts_call {found : Opening} {body : List Lexeme}
    (stands : Span.dropBytes start source = some text) (spelled : Spelled start input text)
    (opens : opening? input = some (found, body))
    (inside : ∀ start text, Span.dropBytes start source = some text → Spelled start body text →
      openingsAfter source start =
        (flattenArguments arguments).flatMap (Node.openings source) ++ openingsAfter source stop) :
    (Node.call ⟨found.start, stop⟩ found.nameSpan found.name arguments).Accounts source := by
  intro _
  obtain ⟨nameText, later, rfl, starts, -, trimmed, identifier, behind⟩ := spelled.opening opens
  have second : Span.dropBytes (start + 1) source =
      some ('{' :: '#' :: (nameText ++ ':' :: later)) := Span.dropBytes_behind ['{'] stands
  have hash : Span.dropBytes (start + 2) source = some ('#' :: (nameText ++ ':' :: later)) :=
    Span.dropBytes_behind ['{'] second
  have named : Span.dropBytes (start + 3) source = some (nameText ++ ':' :: later) :=
    Span.dropBytes_behind ['#'] hash
  have coloned := Span.dropBytes_behind nameText named
  have filled : Span.dropBytes (start + 3 + Text.byteLength nameText + 1) source = some later :=
    Span.dropBytes_behind [':'] coloned
  have first : openingsAfter source start = start :: openingsAfter source (start + 1) := by
    rw [openingsAfter_stands stands, openingsAfter_stands second, openingsFrom_cons]
    rfl
  -- Nothing else is opened before the arguments begin.
  have passed : openingsAfter source (start + 1) =
      openingsAfter source (start + 3 + Text.byteLength nameText + 1) := by
    calc openingsAfter source (start + 1)
        = openingsAfter source (start + 2) := openingsAfter_character second (by decide) rfl
      _ = openingsAfter source (start + 3) := openingsAfter_character hash (by decide) rfl
      _ = openingsAfter source (start + 3 + Text.byteLength nameText) :=
          openingsAfter_run (plain_of_trimmed trimmed identifier) named
      _ = openingsAfter source (start + 3 + Text.byteLength nameText + 1) :=
          openingsAfter_character coloned (by decide) rfl
  rw [Node.span, starts, first, passed, inside _ _ filled behind]
  rfl

/-! ## Literals -/

theorem breaks_nil : Breaks [] := ⟨nofun, nofun, nofun⟩

theorem breaks_cons {c : Char} (structural : isStructural c = true) (notHash : c ≠ '#')
    (notBrace : c ≠ '{') : Breaks (c :: text) := by
  refine ⟨stops_cons structural text, ?_, ?_⟩
  · rintro rest same
    exact notHash (List.cons.inj same).1
  · rintro rest same
    exact notBrace (List.cons.inj same).1

theorem breaks_brace {c : Char} (notHash : c ≠ '#') : Breaks ('{' :: c :: text) := by
  refine ⟨stops_cons rfl _, nofun, ?_⟩
  rintro rest same
  exact notHash (List.cons.inj (List.cons.inj same).2).1

theorem Node.Holds.breaks (holds : node.Holds source) (built : node.isLiteral = false)
    (stands : Span.dropBytes node.span.start source = some text) : Breaks text := by
  cases node with
  | literal span text => cases built
  | token span name =>
    obtain ⟨identifier, sliced⟩ := holds
    obtain ⟨-, later, goesOn⟩ := Span.dropBytes_of_slice sliced (by simp)
    obtain rfl := Option.some.inj (stands.symm.trans goesOn)
    obtain ⟨first, rest, chars, other⟩ := head_identifier identifier
    rw [chars]
    apply breaks_brace
    rintro rfl
    cases other
  | call span nameSpan name arguments =>
    obtain ⟨nameText, body, sliced, -⟩ := holds
    obtain ⟨-, later, goesOn⟩ := Span.dropBytes_of_slice sliced (by simp)
    obtain rfl := Option.some.inj (stands.symm.trans goesOn)
    exact breaks_brace (by decide)

/-- The openings in the text of a literal are found in that text alone. -/
theorem Reads.accounts {read : List Char} (reads : Reads source span read) (text : String)
    (behind : Span.dropBytes span.stop source = some later) (breaks : Breaks later) :
    openingsAfter source span.start =
      (Node.literal span text).openings source ++ openingsAfter source span.stop := by
  obtain ⟨raw, following, -, stands, room, unescapes⟩ := reads
  obtain ⟨start, stop⟩ := span
  obtain rfl : stop = start + Text.byteLength raw := room
  rw [Span.dropBytes_behind raw stands] at behind
  obtain rfl := Option.some.inj behind
  have sliced : (Span.mk start (start + Text.byteLength raw)).slice source = some raw :=
    Span.slice_of_dropBytes raw stands
  -- The raw text ends in no escape, as it reads the same with what follows it.
  have ended : openingsFrom (start + Text.byteLength raw) (escapesNext false raw) following =
      openingsFrom (start + Text.byteLength raw) false following := by
    cases following with
    | nil => rfl
    | cons c rest =>
      have alone : unescape raw = read := by simpa [unescape] using unescapes [] List.nil_prefix
      have apart : unescape (raw ++ [c]) = unescape raw ++ [c] := by
        rw [unescapes [c] (List.prefix_append [c] rest), alone]
        rfl
      rw [escapesNext_eq_false (breaks.stops c rfl) apart]
  rw [openingsAfter_stands stands, openingsFrom_append breaks, ended, Node.openings, sliced,
    openingsAfter_stands (Span.dropBytes_behind raw stands)]

/-- Nodes that follow each other account for what the source opens between their ends. -/
theorem Tiles.accounts (tiles : Tiles start stop nodes) (holds : ∀ node ∈ nodes, node.Holds source)
    (accounts : ∀ node ∈ nodes, node.Accounts source) (separated : Separated nodes)
    (stands : Span.dropBytes stop source = some later) (breaks : Breaks later) :
    openingsAfter source start = openingsIn source nodes ++ openingsAfter source stop := by
  induction nodes generalizing start with
  | nil =>
    obtain rfl := tiles
    rfl
  | cons node rest ih =>
    obtain ⟨rfl, -, others⟩ := tiles
    rw [List.forall_mem_cons] at holds accounts
    have behind := ih others holds.2 accounts.2 (List.IsChain.tail separated)
    have here : openingsAfter source node.span.start =
        node.flatten.flatMap (Node.openings source) ++ openingsAfter source node.span.stop := by
      cases node with
      | literal span text =>
        obtain ⟨raw, following, -, goesOn, room, -⟩ := holds.1
        have next : Span.dropBytes span.stop source = some following := by
          rw [room]
          exact Span.dropBytes_behind raw goesOn
        -- The next node is a construct, if there is one.
        have broken : Breaks following := by
          cases rest with
          | nil =>
            obtain rfl : span.stop = stop := others
            obtain rfl := Option.some.inj (next.symm.trans stands)
            exact breaks
          | cons second rest =>
            have built := (List.isChain_cons_cons.mp separated).1 rfl
            obtain ⟨starts, -⟩ := others
            apply (holds.2 second List.mem_cons_self).breaks built
            rw [starts]
            exact next
        have alone : (Node.literal span text).flatten = [.literal span text] := rfl
        rw [alone, List.flatMap_singleton]
        exact Reads.accounts holds.1 text next broken
      | token span name => exact accounts.1 rfl
      | call span nameSpan name arguments => exact accounts.1 rfl
    rw [here, behind, openingsIn_cons, List.append_assoc]

/-! ## Merging and trimming -/

/-- Where a literal is blank, the source is. -/
def Node.Shows (source : List Char) : Node → Prop
  | .literal span text => (∀ c ∈ text.toList, Text.isBlank c = true) →
      Blank source span.start span.stop
  | _ => True

theorem Node.Holds.shows (holds : node.Holds source) : node.Shows source := by
  cases node with
  | literal span text => exact Reads.blank holds
  | token span name => trivial
  | call span nameSpan name arguments => trivial

theorem Node.Shows.mapLiteral {trim : String → String} (shows : node.Shows source)
    (blanksOnly : ∀ text, (∀ c ∈ (trim text).toList, Text.isBlank c = true) →
      ∀ c ∈ text.toList, Text.isBlank c = true) : (node.mapLiteral trim).Shows source := by
  cases node with
  | literal span text =>
    intro blank
    exact shows (blanksOnly text blank)
  | token span name => trivial
  | call span nameSpan name arguments => trivial

/-- Trimming leaves a node its place in the source. -/
theorem openings_mapLiteral (trim : String → String) (node : Node) :
    (node.mapLiteral trim).flatten.flatMap (Node.openings source) =
      node.flatten.flatMap (Node.openings source) := by
  cases node <;> rfl

theorem openingsIn_mapFirst (trim : String → String) (nodes : List Node) :
    openingsIn source (mapFirst (Node.mapLiteral trim) nodes) = openingsIn source nodes := by
  cases nodes with
  | nil => rfl
  | cons node rest => rw [mapFirst, openingsIn_cons, openingsIn_cons, openings_mapLiteral]

theorem openingsIn_mapLast (trim : String → String) (nodes : List Node) :
    openingsIn source (mapLast (Node.mapLiteral trim) nodes) = openingsIn source nodes := by
  induction nodes with
  | nil => rfl
  | cons node rest ih =>
    cases rest with
    | nil => rw [mapLast, openingsIn_cons, openingsIn_cons, openings_mapLiteral]
    | cons second rest =>
      rw [mapLast, openingsIn_cons, openingsIn_cons, ih]
      exact List.cons_ne_nil second rest

/-- No call is opened among blanks. -/
theorem Blank.openings (blank : Blank source span.start span.stop) (text : String) :
    (Node.literal span text).openings source = [] := by
  obtain ⟨-, raw, sliced, blanks⟩ := blank
  have plain : ∀ c ∈ raw, isStructural c = false := by
    intro c member
    exact not_isStructural_of_isBlank (blanks c member)
  have same : span.slice source = some (raw ++ []) := by
    rw [List.append_nil]
    exact sliced
  rw [Node.openings, same]
  exact openingsFrom_run plain

theorem openingsIn_filter (shows : ∀ node ∈ nodes, node.Shows source) :
    openingsIn source (nodes.filter fun node => !node.isEmptyLiteral) =
      openingsIn source nodes := by
  induction nodes with
  | nil => rfl
  | cons node rest ih =>
    rw [List.forall_mem_cons] at shows
    cases empty : node.isEmptyLiteral with
    | false =>
      rw [List.filter_cons_of_pos (by simp [empty]), openingsIn_cons, openingsIn_cons, ih shows.2]
    | true =>
      rw [List.filter_cons_of_neg (by simp [empty]), openingsIn_cons, ih shows.2]
      cases node with
      | literal span text =>
        have nothing : text.toList = [] := by simpa [Node.isEmptyLiteral] using empty
        have blank : Blank source span.start span.stop := by
          apply shows.1
          rw [nothing]
          simp
        have alone : (Node.literal span text).flatten = [.literal span text] := rfl
        rw [alone, List.flatMap_singleton, blank.openings]
        rfl
      | token span name => cases empty
      | call span nameSpan name arguments => cases empty

theorem openingsIn_argument (holds : ∀ node ∈ mergeLiterals nodes, node.Holds source) :
    openingsIn source (argument nodes) = openingsIn source (mergeLiterals nodes) := by
  have shows : ∀ node ∈ mapLast (Node.mapLiteral Text.trimEnd)
      (mapFirst (Node.mapLiteral Text.trimStart) (mergeLiterals nodes)), node.Shows source := by
    apply forall_mem_mapLast
    · intro node shows
      apply shows.mapLiteral
      intro text blank
      apply isBlank_of_cutEdges false true
      simpa [Text.trimEnd, cutEdges] using blank
    apply forall_mem_mapFirst
    · intro node shows
      apply shows.mapLiteral
      intro text blank
      apply isBlank_of_cutEdges true false
      simpa [Text.trimStart, cutEdges] using blank
    intro node member
    exact (holds node member).shows
  rw [argument, openingsIn_filter shows, openingsIn_mapLast, openingsIn_mapFirst]

/-! ## Derivations -/

/-- The nodes of an argument account for what the source opens up to the pipe or the closing behind
them. -/
theorem argument_accounts (tiles : Tiles begin start nodes)
    (holds : ∀ node ∈ nodes, node.Holds source) (accounts : ∀ node ∈ nodes, node.Accounts source)
    (stands : Span.dropBytes start source = some text) (breaks : Breaks text) :
    openingsAfter source begin =
      openingsIn source (argument nodes) ++ openingsAfter source start := by
  obtain ⟨tiles, holds⟩ := mergeLiterals_holds tiles holds
  have kept : ∀ node ∈ mergeLiterals nodes, node.Accounts source := by
    intro node member built
    exact accounts node ((mem_mergeLiterals built).mp member) built
  rw [openingsIn_argument holds]
  exact tiles.accounts holds kept (separated_mergeLiterals nodes) stands breaks

/-- A node becomes the next one of those read so far. -/
theorem Placed.accounts {behind : List Lexeme} (placed : Placed source start text node behind)
    (account : node.Accounts source) (stands : Span.dropBytes start source = some text)
    (tiles : Tiles begin start done.reverse) (holds : ∀ other ∈ done.reverse, other.Holds source)
    (accounts : ∀ other ∈ done.reverse, other.Accounts source) :
    ∃ next later, Span.dropBytes next source = some later ∧ Spelled next behind later ∧
      Tiles begin next (node :: done).reverse ∧
      (∀ other ∈ (node :: done).reverse, other.Holds source) ∧
      ∀ other ∈ (node :: done).reverse, other.Accounts source := by
  obtain ⟨raw, later, rfl, stands, tiles, holds, spelled⟩ := placed.behind stands tiles holds
  rw [List.reverse_cons]
  refine ⟨_, later, stands, spelled, tiles, holds, ?_⟩
  rw [List.forall_mem_append, List.forall_mem_singleton]
  exact ⟨accounts, account⟩

theorem ArgumentsRead.accounts (read : ArgumentsRead done input arguments stop rest)
    (stands : Span.dropBytes start source = some text) (spelled : Spelled start input text)
    (tiles : Tiles begin start done.reverse) (holds : ∀ node ∈ done.reverse, node.Holds source)
    (accounts : ∀ node ∈ done.reverse, node.Accounts source) {opened : List Char}
    (begins : Span.dropBytes begin source = some opened) :
    openingsAfter source begin =
      (flattenArguments arguments).flatMap (Node.openings source) ++ openingsAfter source stop := by
  induction read generalizing start begin text opened with
  | closing closes =>
    obtain ⟨later, rfl, rfl, -⟩ := spelled.closing closes
    have second : Span.dropBytes (start + 1) source = some ('}' :: later) :=
      Span.dropBytes_behind ['}'] stands
    have closed : openingsAfter source start = openingsAfter source (start + 2) := by
      calc openingsAfter source start
          = openingsAfter source (start + 1) := openingsAfter_character stands (by decide) rfl
        _ = openingsAfter source (start + 2) := openingsAfter_character second (by decide) rfl
    have breaks : Breaks ('}' :: '}' :: later) := breaks_cons rfl (by decide) (by decide)
    rw [argument_accounts tiles holds accounts stands breaks, closed, flattenArguments,
      flattenArguments, List.append_nil]
    rfl
  | pipe separates others ih =>
    obtain ⟨later, rfl, behind⟩ := spelled.pipe separates
    have next : Span.dropBytes (start + 1) source = some later := Span.dropBytes_behind ['|'] stands
    have passed : openingsAfter source start = openingsAfter source (start + 1) :=
      openingsAfter_character stands (by decide) rfl
    have breaks : Breaks ('|' :: later) := breaks_cons rfl (by decide) (by decide)
    have following := ih next behind rfl (by simp) (by simp) next
    rw [argument_accounts tiles holds accounts stands breaks, passed, following, flattenArguments,
      List.flatMap_append, List.append_assoc]
    rfl
  | call opens inside others ihInside ihOthers =>
    have placed := placed_call stands spelled opens fun _ _ stands spelled =>
      inside.placed stands spelled stands rfl (by simp)
    have account := accounts_call stands spelled opens fun _ _ stands spelled =>
      ihInside stands spelled rfl (by simp) (by simp) stands
    obtain ⟨_, _, stands, spelled, tiles, holds, accounts⟩ :=
      placed.accounts account stands tiles holds accounts
    exact ihOthers stands spelled tiles holds accounts begins
  | reference refers others ih =>
    have placed := placed_reference stands spelled refers
    have account := accounts_reference stands spelled refers
    obtain ⟨_, _, stands, spelled, tiles, holds, accounts⟩ :=
      placed.accounts account stands tiles holds accounts
    exact ih stands spelled tiles holds accounts begins
  | literal inside unclosed others ih =>
    have placed := placed_literal stands spelled
    obtain ⟨_, _, stands, spelled, tiles, holds, accounts⟩ :=
      placed.accounts (accounts_literal _) stands tiles holds accounts
    exact ih stands spelled tiles holds accounts begins

theorem NodesRead.accounts (read : NodesRead input nodes)
    (stands : Span.dropBytes start source = some text) (spelled : Spelled start input text) :
    ∀ node ∈ nodes, node.Accounts source := by
  induction read generalizing start text with
  | nil => simp
  | call opens inside others ih =>
    have placed := placed_call stands spelled opens fun _ _ stands spelled =>
      inside.placed stands spelled stands rfl (by simp)
    have account := accounts_call stands spelled opens fun _ _ stands spelled =>
      inside.accounts stands spelled rfl (by simp) (by simp) stands
    obtain ⟨raw, later, -, rfl, -, -, behind⟩ := placed
    rw [List.forall_mem_cons]
    exact ⟨account, ih (Span.dropBytes_behind raw stands) behind⟩
  | reference refers others ih =>
    have account := accounts_reference stands spelled refers
    obtain ⟨raw, later, -, rfl, -, -, behind⟩ := placed_reference stands spelled refers
    rw [List.forall_mem_cons]
    exact ⟨account, ih (Span.dropBytes_behind raw stands) behind⟩
  | literal others ih =>
    obtain ⟨raw, later, -, rfl, -, -, behind⟩ := placed_literal stands spelled
    rw [List.forall_mem_cons]
    exact ⟨accounts_literal _, ih (Span.dropBytes_behind raw stands) behind⟩

/-- The openings of a tree are the places where the lexemes of its source begin calls. -/
theorem openingsIn_parse (source : String) :
    openingsIn source.toList (parse source) = callPlaces (lexemes source) := by
  have spelled : Spelled 0 (pairCalls (lexemes source)) source.toList :=
    (lexemesFrom_spelled 0 source.toList).demoted (pairFrom_demotes 0 _)
  have read := nodesRead (pairCalls (lexemes source))
  have opened := Span.dropBytes_zero source.toList
  have accounts := read.accounts opened spelled
  obtain ⟨tiles, holds⟩ := parse_holds source
  have kept : ∀ node ∈ parse source, node.Accounts source.toList := by
    intro node member built
    exact accounts node ((mem_mergeLiterals built).mp member) built
  have whole : Span.dropBytes (Text.byteLength source.toList) source.toList = some [] := by
    have all := Span.dropBytes_byteLength source.toList []
    rwa [List.append_nil] at all
  calc openingsIn source.toList (parse source)
      = openingsIn source.toList (parse source) ++
          openingsAfter source.toList (Text.byteLength source.toList) := by
        rw [openingsAfter_stands whole, openingsFrom, List.append_nil]
    _ = openingsAfter source.toList 0 :=
        (tiles.accounts holds kept (separated_mergeLiterals _) whole breaks_nil).symm
    _ = callPlaces (lexemes source) := by
        rw [openingsAfter_stands opened, openingsFrom_eq_callPlaces]
        rfl

end CreatureNaming.Pattern
