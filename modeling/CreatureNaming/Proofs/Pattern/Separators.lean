import CreatureNaming.Proofs.Pattern.NormalForm

/-! The separators of a call.

A pipe of a source separates arguments of the innermost call that holds it, unless it is escaped.
Since the lexemes stand side by side, which calls hold a pipe can be told by the ranges in the
tree; counting them while the arguments are read gives one argument more than separators.
-/

set_option autoImplicit false

namespace CreatureNaming

def Span.isWithin (inner outer : Span) : Bool :=
  outer.start ≤ inner.start && inner.stop ≤ outer.stop

namespace Pattern

def Node.isCall : Node → Bool
  | .call _ _ _ _ => true
  | _ => false

/-- A pipe that lies in none of the calls among some nodes. -/
def Lexeme.separates (nodes : List Node) (lexeme : Lexeme) : Bool :=
  lexeme.kind == .pipe && !nodes.any fun node => node.isCall && lexeme.span.isWithin node.span

/-- The pipes in the range of a call that lie in none of the calls among its arguments. -/
def separators (input : List Lexeme) (span : Span) (arguments : List (List Node)) : List Lexeme :=
  input.filter fun lexeme => lexeme.span.isWithin span && lexeme.separates arguments.flatten

/-- Each lexeme takes some room, and stands before those that follow it. -/
structure InOrder (input : List Lexeme) : Prop where
  room : ∀ lexeme ∈ input, lexeme.span.start < lexeme.span.stop
  apart : input.Pairwise fun first second => first.span.stop ≤ second.span.start

/-- The calls among some nodes end before an input. -/
def EndBefore (nodes : List Node) (input : List Lexeme) : Prop :=
  ∀ node ∈ nodes, node.isCall = true → ∀ lexeme ∈ input, node.span.stop ≤ lexeme.span.start

variable {pending stop start : Nat} {input body rest whole : List Lexeme} {text : List Char}
  {done nodes others : List Node} {node : Node} {arguments : List (List Node)} {found : Opening}
  {first lexeme : Lexeme} {name : String} {span nameSpan : Span}

/-! ## The order of lexemes -/

theorem InOrder.suffix (ordered : InOrder whole) (suffix : input <:+ whole) : InOrder input :=
  ⟨fun lexeme member => ordered.room lexeme (suffix.mem member),
    ordered.apart.sublist suffix.sublist⟩

theorem Spelled.start_le (spelled : Spelled start input text) :
    ∀ lexeme ∈ input, start ≤ lexeme.span.start := by
  induction spelled with
  | nil start => simp
  | cons raw range spells rest ih =>
    refine List.forall_mem_cons.mpr ⟨by rw [range], fun lexeme member => ?_⟩
    exact Nat.le_trans (Nat.le_add_right _ _) (ih lexeme member)

theorem Spelled.inOrder (spelled : Spelled start input text) : InOrder input := by
  induction spelled with
  | nil start => exact ⟨by simp, .nil⟩
  | cons raw range spells rest ih =>
    have size := Text.byteLength_pos spells.ne_nil
    refine ⟨List.forall_mem_cons.mpr ⟨?_, ih.room⟩, .cons (fun lexeme member => ?_) ih.apart⟩
    · rw [range]
      exact Nat.lt_add_of_pos_right size
    · rw [range]
      exact rest.start_le lexeme member

/-! ## Pipes -/

theorem Span.isWithin_iff {inner outer : Span} :
    inner.isWithin outer = true ↔ outer.start ≤ inner.start ∧ inner.stop ≤ outer.stop := by
  simp [Span.isWithin]

/-- What lies behind a range lies not within it. -/
theorem Span.not_isWithin {inner outer : Span} (behind : outer.stop ≤ inner.start)
    (room : inner.start < inner.stop) : inner.isWithin outer = false := by
  rw [Bool.eq_false_iff, ne_eq, Span.isWithin_iff]
  omega

theorem not_separates (other : lexeme.kind ≠ .pipe) (nodes : List Node) :
    lexeme.separates nodes = false := by
  simp [Lexeme.separates, other]

theorem not_separates_of_call (member : node ∈ nodes) (called : node.isCall = true)
    (within : lexeme.span.isWithin node.span = true) : lexeme.separates nodes = false := by
  have inside : (nodes.any fun node => node.isCall && lexeme.span.isWithin node.span) = true :=
    List.any_eq_true.mpr ⟨node, member, by rw [called, within]; rfl⟩
  rw [Lexeme.separates, inside, Bool.not_true, Bool.and_false]

/-- Calls that end before a pipe do not hold it. -/
theorem separates_append (before : EndBefore nodes input) (ordered : InOrder input)
    (member : lexeme ∈ input) : lexeme.separates (nodes ++ others) = lexeme.separates others := by
  have outside : (nodes.any fun node => node.isCall && lexeme.span.isWithin node.span) = false := by
    rw [List.any_eq_false]
    intro node among
    cases called : node.isCall with
    | false => simp
    | true =>
      rw [Span.not_isWithin (before node among called lexeme member) (ordered.room lexeme member)]
      simp
  rw [Lexeme.separates, List.any_append, outside, Bool.false_or]
  rfl

theorem countP_opening (opens : opening? input = some (found, rest)) (keep : Lexeme → Bool)
    (pipes : ∀ lexeme, lexeme.kind ≠ .pipe → keep lexeme = false) :
    input.countP keep = rest.countP keep := by
  obtain ⟨_, _, _, _, _, _, -, -, rfl⟩ := opening?_shape opens
  iterate 5 rw [List.countP_cons_of_neg (by simp [pipes])]

theorem countP_reference (refers : reference? input = some (name, span, rest))
    (keep : Lexeme → Bool) (pipes : ∀ lexeme, lexeme.kind ≠ .pipe → keep lexeme = false) :
    input.countP keep = rest.countP keep := by
  obtain ⟨_, _, _, -, -, rfl⟩ := reference?_shape refers
  iterate 3 rw [List.countP_cons_of_neg (by simp [pipes])]

theorem countP_closing (closes : closing? input = some (span, rest)) (keep : Lexeme → Bool)
    (pipes : ∀ lexeme, lexeme.kind ≠ .pipe → keep lexeme = false) :
    input.countP keep = rest.countP keep := by
  obtain ⟨_, _, -, rfl⟩ := closing?_shape closes
  iterate 2 rw [List.countP_cons_of_neg (by simp [pipes])]

/-! ## The calls among the arguments -/

theorem not_isLiteral_of_isCall (called : node.isCall = true) : node.isLiteral = false := by
  cases node <;> first | rfl | cases called

/-- No call that was read is lost. -/
theorem ArgumentsPaired.mem_flatten
    (paired : ArgumentsPaired pending done input arguments stop rest) (member : node ∈ done)
    (called : node.isCall = true) : node ∈ arguments.flatten := by
  induction paired with
  | closing closes =>
    rw [List.flatten_singleton, mem_argument (not_isLiteral_of_isCall called)]
    exact List.mem_reverse.mpr member
  | pipe separates others ih =>
    rw [List.flatten_cons, List.mem_append, mem_argument (not_isLiteral_of_isCall called)]
    exact .inl (List.mem_reverse.mpr member)
  | call opens room inside others ihInside ihOthers =>
    exact ihOthers (List.mem_cons_of_mem _ member)
  | tooDeep opens deep others ih => exact ih (List.mem_append_right _ member)
  | reference refers others ih => exact ih (List.mem_cons_of_mem _ member)
  | literal inside unopened unreferred unclosed others ih =>
    exact ih (List.mem_cons_of_mem _ member)

/-- A call was read before, or it is opened in the input. -/
theorem ArgumentsPaired.starts_within
    (paired : ArgumentsPaired pending done input arguments stop rest)
    (member : node ∈ arguments.flatten) (called : node.isCall = true) :
    node ∈ done ∨ ∃ lexeme ∈ input, node.span.start = lexeme.span.start := by
  have behind {input later : List Lexeme} (suffix : later <:+ input)
      (starts : ∃ lexeme ∈ later, node.span.start = lexeme.span.start) :
      ∃ lexeme ∈ input, node.span.start = lexeme.span.start := by
    obtain ⟨lexeme, member, same⟩ := starts
    exact ⟨lexeme, suffix.mem member, same⟩
  induction paired with
  | closing closes =>
    rw [List.flatten_singleton, mem_argument (not_isLiteral_of_isCall called)] at member
    exact .inl (List.mem_reverse.mp member)
  | pipe separates others ih =>
    rw [List.flatten_cons, List.mem_append, mem_argument (not_isLiteral_of_isCall called)] at member
    rcases member with before | later
    · exact .inl (List.mem_reverse.mp before)
    · exact .inr (behind (List.suffix_cons _ _) ((ih later).resolve_left (by simp)))
  | call opens room inside others ihInside ihOthers =>
    have suffix := inside.suffix.trans (suffix_of_opening? opens)
    rcases ihOthers member with before | later
    · rcases List.mem_cons.mp before with rfl | before
      · obtain ⟨_, _, _, _, _, _, -, rfl, rfl⟩ := opening?_shape opens
        exact .inr ⟨_, List.mem_cons_self, rfl⟩
      · exact .inl before
    · exact .inr (behind suffix later)
  | tooDeep opens deep others ih =>
    refine (ih member).imp (fun before => ?_) (behind (suffix_of_opening? opens))
    refine (List.mem_append.mp before).resolve_left fun literals => ?_
    obtain ⟨lexeme, -, rfl⟩ := List.mem_map.mp (List.mem_reverse.mp literals)
    cases called
  | reference refers others ih =>
    refine (ih member).imp (fun before => ?_) (behind (suffix_of_reference? refers))
    refine (List.mem_cons.mp before).resolve_left ?_
    rintro rfl
    cases called
  | literal inside unopened unreferred unclosed others ih =>
    refine (ih member).imp (fun before => ?_) (behind (List.suffix_cons _ _))
    refine (List.mem_cons.mp before).resolve_left ?_
    rintro rfl
    cases called

/-- The body of a call lies in its range, and what follows it behind that range. -/
theorem ArgumentsPaired.splits (inside : ArgumentsPaired pending done body arguments stop rest)
    (opens : opening? input = some (found, body)) (ordered : InOrder input) :
    ∃ inner, body = inner ++ rest ∧
      (∀ lexeme ∈ inner, lexeme.span.isWithin ⟨found.start, stop⟩ = true) ∧
      ∀ lexeme ∈ rest, stop ≤ lexeme.span.start := by
  obtain ⟨before, last, rfl, -, rfl⟩ := inside.consumed
  obtain ⟨bodyRoom, bodyApart⟩ := ordered.suffix (suffix_of_opening? opens)
  obtain ⟨-, lastApart, apartLast⟩ := List.pairwise_append.mp bodyApart
  refine ⟨before ++ [last], by simp, fun lexeme member => ?_, (List.pairwise_cons.mp lastApart).1⟩
  obtain ⟨_, _, _, _, _, _, -, rfl, rfl⟩ := opening?_shape opens
  have lastRoom := bodyRoom last (by simp)
  have among : lexeme ∈ before ++ last :: rest := by
    rw [List.append_cons]
    exact List.mem_append_left _ member
  have starts := ordered.room _ List.mem_cons_self
  have after := (List.pairwise_cons.mp ordered.apart).1 lexeme (by simp [among])
  refine Span.isWithin_iff.mpr ⟨by dsimp only at *; omega, ?_⟩
  rcases List.mem_append.mp member with earlier | final
  · have := apartLast lexeme earlier last List.mem_cons_self
    dsimp only
    omega
  · rw [List.mem_singleton.mp final]

/-! ## Counting separators -/

/-- A pipe between the arguments of a call is one of its separators, and the others are those of
what follows the pipe. -/
theorem countP_pipe (others : ArgumentsPaired pending [] body arguments stop rest)
    (separates : first.kind = .pipe) (ordered : InOrder (first :: body))
    (before : EndBefore nodes (first :: body)) :
    (first :: body).countP (Lexeme.separates (nodes ++ arguments.flatten)) =
        body.countP (Lexeme.separates arguments.flatten) + 1 ∧
      rest.countP (Lexeme.separates (nodes ++ arguments.flatten)) =
        rest.countP (Lexeme.separates arguments.flatten) := by
  have same (later : List Lexeme) (suffix : later <:+ body) :
      later.countP (Lexeme.separates (nodes ++ arguments.flatten)) =
        later.countP (Lexeme.separates arguments.flatten) := by
    refine List.countP_congr fun lexeme member => ?_
    rw [separates_append before ordered (List.mem_cons_of_mem _ (suffix.mem member))]
  have own : first.separates (nodes ++ arguments.flatten) = true := by
    rw [separates_append before ordered List.mem_cons_self, Lexeme.separates, separates]
    -- The calls that follow are opened behind the pipe.
    have outside : (arguments.flatten.any fun node =>
        node.isCall && first.span.isWithin node.span) = false := by
      rw [List.any_eq_false]
      intro node member
      cases called : node.isCall with
      | false => simp
      | true =>
        obtain ⟨lexeme, among, starts⟩ :=
          (others.starts_within member called).resolve_left (by simp)
        have apart := (List.pairwise_cons.mp ordered.apart).1 lexeme among
        have room := ordered.room first List.mem_cons_self
        rw [Bool.true_and, Span.isWithin_iff]
        omega
    rw [outside]
    rfl
  rw [List.countP_cons_of_pos own, same body List.suffix_rfl, same rest others.suffix]
  exact ⟨rfl, rfl⟩

/-- No pipe in the body of a call among the arguments separates them. -/
theorem countP_call (inside : ArgumentsPaired pending done body arguments stop rest)
    (opens : opening? input = some (found, body)) (ordered : InOrder input)
    (member : node ∈ nodes) (called : node.isCall = true)
    (range : node.span = ⟨found.start, stop⟩) :
    input.countP (Lexeme.separates nodes) = rest.countP (Lexeme.separates nodes) := by
  obtain ⟨inner, rfl, within, -⟩ := inside.splits opens ordered
  have none : inner.countP (Lexeme.separates nodes) = 0 := by
    rw [List.countP_eq_zero]
    intro lexeme among
    rw [not_separates_of_call member called (by rw [range]; exact within lexeme among)]
    nofun
  rw [countP_opening opens _ fun lexeme other => not_separates other nodes, List.countP_append,
    none, Nat.zero_add]

theorem EndBefore.suffix (before : EndBefore nodes input) (suffix : rest <:+ input) :
    EndBefore nodes rest :=
  fun node member called lexeme among => before node member called lexeme (suffix.mem among)

theorem EndBefore.cons (before : EndBefore nodes input)
    (ends : node.isCall = true → ∀ lexeme ∈ input, node.span.stop ≤ lexeme.span.start) :
    EndBefore (node :: nodes) input :=
  List.forall_mem_cons.mpr ⟨ends, before⟩

/-- Behind its opening, a call has one argument more than separators. -/
theorem ArgumentsPaired.countP_separates
    (paired : ArgumentsPaired pending done input arguments stop rest) (ordered : InOrder input)
    (before : EndBefore done input) :
    input.countP (Lexeme.separates arguments.flatten) + 1 =
      rest.countP (Lexeme.separates arguments.flatten) + arguments.length := by
  induction paired with
  | closing closes => rw [countP_closing closes _ fun lexeme other => not_separates other _]; rfl
  | @pipe pending done first rest behind arguments stop separates others ih =>
    have ended : EndBefore (argument done.reverse) (first :: rest) := by
      intro node member called
      rw [mem_argument (not_isLiteral_of_isCall called), List.mem_reverse] at member
      exact before node member called
    have counted := ih (ordered.suffix (List.suffix_cons _ _)) (by simp [EndBefore])
    obtain ⟨here, after⟩ := countP_pipe others separates ordered ended
    rw [List.flatten_cons, here, after, counted, List.length_cons, Nat.add_assoc]
  | call opens room inside others ihInside ihOthers =>
    have suffix := inside.suffix.trans (suffix_of_opening? opens)
    have among := others.mem_flatten List.mem_cons_self rfl
    rw [countP_call inside opens ordered among rfl rfl]
    obtain ⟨-, -, -, behind⟩ := inside.splits opens ordered
    exact ihOthers (ordered.suffix suffix) ((before.suffix suffix).cons fun _ => behind)
  | tooDeep opens deep others ih =>
    have suffix := suffix_of_opening? opens
    rw [countP_opening opens _ fun lexeme other => not_separates other _]
    refine ih (ordered.suffix suffix) fun node member called => ?_
    rcases List.mem_append.mp member with literals | member
    · obtain ⟨lexeme, -, rfl⟩ := List.mem_map.mp (List.mem_reverse.mp literals)
      cases called
    · exact before.suffix suffix node member called
  | reference refers others ih =>
    have suffix := suffix_of_reference? refers
    rw [countP_reference refers _ fun lexeme other => not_separates other _]
    exact ih (ordered.suffix suffix) ((before.suffix suffix).cons nofun)
  | literal inside unopened unreferred unclosed others ih =>
    rw [List.countP_cons_of_neg (by rw [not_separates inside]; nofun)]
    exact ih (ordered.suffix (List.suffix_cons _ _))
      ((before.suffix (List.suffix_cons _ _)).cons nofun)

/-! ## Separators in the whole source -/

/-- A call has one argument more than separators, wherever it stands. -/
theorem length_arguments (inside : ArgumentsPaired pending [] body arguments stop rest)
    (opens : opening? input = some (found, body)) (suffix : input <:+ whole)
    (ordered : InOrder whole) :
    arguments.length = (separators whole ⟨found.start, stop⟩ arguments).length + 1 := by
  have inputOrdered := ordered.suffix suffix
  have bodyOrdered := inputOrdered.suffix (suffix_of_opening? opens)
  have counted := inside.countP_separates bodyOrdered (by simp [EndBefore])
  obtain ⟨inner, split, within, behind⟩ := inside.splits opens inputOrdered
  obtain ⟨earlier, rfl⟩ := suffix
  -- Before and behind the call nothing is within its range.
  have none (part : List Lexeme) (outside : ∀ lexeme ∈ part,
      lexeme.span.isWithin ⟨found.start, stop⟩ = false) :
      part.countP (fun lexeme => lexeme.span.isWithin ⟨found.start, stop⟩ &&
        lexeme.separates arguments.flatten) = 0 := by
    rw [List.countP_eq_zero]
    intro lexeme member
    rw [outside lexeme member]
    nofun
  have noneBefore := none earlier fun lexeme member => by
    have room := ordered.room lexeme (List.mem_append_left _ member)
    obtain ⟨_, _, _, _, _, _, -, rfl, rfl⟩ := opening?_shape opens
    have apart := (List.pairwise_append.mp ordered.apart).2.2 lexeme member _ List.mem_cons_self
    rw [Bool.eq_false_iff, ne_eq, Span.isWithin_iff]
    dsimp only at apart ⊢
    omega
  have noneBehind := none rest fun lexeme member =>
    Span.not_isWithin (behind lexeme member)
      (bodyOrdered.room lexeme (inside.suffix.mem member))
  have own : inner.countP (fun lexeme => lexeme.span.isWithin ⟨found.start, stop⟩ &&
      lexeme.separates arguments.flatten) =
        inner.countP (Lexeme.separates arguments.flatten) := by
    refine List.countP_congr fun lexeme member => ?_
    rw [within lexeme member, Bool.true_and]
  rw [split, List.countP_append] at counted
  rw [separators, ← List.countP_eq_length_filter, List.countP_append, noneBefore,
    countP_opening opens _ fun lexeme other => by rw [not_separates other, Bool.and_false],
    split, List.countP_append, own, noneBehind]
  omega

/-- Each call in a node has one argument more than separators. -/
def Node.IsSeparated (whole : List Lexeme) (node : Node) : Prop :=
  ∀ span nameSpan name arguments, Node.call span nameSpan name arguments ∈ node.flatten →
    arguments.length = (separators whole span arguments).length + 1

theorem mem_flatten : node ∈ flatten nodes ↔ ∃ outer ∈ nodes, node ∈ outer.flatten := by
  induction nodes with
  | nil => simp [flatten]
  | cons first rest ih => simp [flatten, ih]

theorem mem_flattenArguments :
    node ∈ flattenArguments arguments ↔ ∃ nodes ∈ arguments, node ∈ flatten nodes := by
  induction arguments with
  | nil => simp [flattenArguments]
  | cons first rest ih => simp [flattenArguments, ih]

theorem isSeparated_of_not_isCall (other : node.isCall = false) : node.IsSeparated whole := by
  intro span nameSpan name arguments member
  cases node with
  | literal => cases List.mem_singleton.mp member
  | token => cases List.mem_singleton.mp member
  | call => cases other

theorem holdsOfPieces_isSeparated (ordered : InOrder whole) :
    HoldsOfPieces whole fun _ node => node.IsSeparated whole where
  literal _ _ _ := isSeparated_of_not_isCall rfl
  token _ _ _ _ := isSeparated_of_not_isCall rfl
  call suffix opens room inside pieces := by
    intro span nameSpan name arguments member
    rcases List.mem_cons.mp member with same | inner
    · obtain ⟨rfl, rfl, rfl, rfl⟩ := Node.call.inj same
      exact length_arguments inside opens suffix ordered
    · obtain ⟨nodes, among, inner⟩ := mem_flattenArguments.mp inner
      obtain ⟨pieces, rfl, all⟩ := pieces nodes among
      obtain ⟨outer, member, innermost⟩ := mem_flatten.mp inner
      cases called : outer.isCall with
      | false => exact isSeparated_of_not_isCall called _ _ _ _ innermost
      | true =>
        have among := (mem_argument (not_isLiteral_of_isCall called)).mp member
        exact all outer among _ _ _ _ innermost

theorem length_arguments_parse (source : String) (span nameSpan : Span) (name : String)
    (arguments : List (List Node))
    (member : .call span nameSpan name arguments ∈ flatten (parse source)) :
    arguments.length = (separators (lexemes source) span arguments).length + 1 := by
  obtain ⟨nodes, paired, same⟩ := exists_parse_eq source
  have pieces := holdsOfPieces_isSeparated (lexemesFrom_spelled 0 source.toList).inOrder
  rw [same] at member
  obtain ⟨outer, among, inner⟩ := mem_flatten.mp member
  cases called : outer.isCall with
  | false => exact isSeparated_of_not_isCall called _ _ _ _ inner
  | true =>
    have member := (mem_mergeLiterals (not_isLiteral_of_isCall called)).mp among
    obtain ⟨_, separated⟩ := paired.forall_holds pieces List.suffix_rfl outer member
    exact separated _ _ _ _ inner

/-- Every tree is in normal form. At every depth no literal is empty and none stands beside another,
names are identifiers, and no argument begins or ends with a blank; a call lies inside at most 63
others, and has one argument more than separators. -/
theorem parse_normal (source : String) :
    areCanonical (parse source) = true ∧ depth (parse source) ≤ maxCallDepth ∧
      ∀ span nameSpan name arguments,
        .call span nameSpan name arguments ∈ flatten (parse source) →
        arguments.length = (separators (lexemes source) span arguments).length + 1 :=
  ⟨areCanonical_parse source, depth_parse_le source, length_arguments_parse source⟩

/-- Beside the separator there are an escaped pipe and one that belongs to an inner call. -/
theorem parse_normal_nested :
    let source := "\x7b\x7b#if:\\||\x7b\x7b#len:|\x7d\x7d\x7d\x7d"
    ∃ first second, .call ⟨0, 21⟩ ⟨3, 5⟩ "if" [first, second] ∈ flatten (parse source) ∧
      2 = (separators (lexemes source) ⟨0, 21⟩ [first, second]).length + 1 := by
  intro source
  have lexed : lexemes source =
      [⟨.braceOpen, ⟨0, 1⟩⟩, ⟨.braceOpen, ⟨1, 2⟩⟩, ⟨.hash, ⟨2, 3⟩⟩, ⟨.text "if", ⟨3, 5⟩⟩,
        ⟨.colon, ⟨5, 6⟩⟩, ⟨.escaped '|', ⟨6, 8⟩⟩, ⟨.pipe, ⟨8, 9⟩⟩,
        ⟨.braceOpen, ⟨9, 10⟩⟩, ⟨.braceOpen, ⟨10, 11⟩⟩, ⟨.hash, ⟨11, 12⟩⟩, ⟨.text "len", ⟨12, 15⟩⟩,
        ⟨.colon, ⟨15, 16⟩⟩, ⟨.pipe, ⟨16, 17⟩⟩, ⟨.braceClose, ⟨17, 18⟩⟩, ⟨.braceClose, ⟨18, 19⟩⟩,
        ⟨.braceClose, ⟨19, 20⟩⟩, ⟨.braceClose, ⟨20, 21⟩⟩] := by decide +kernel
  obtain ⟨first, second, paired⟩ : ∃ first second,
      NodesPaired 0 (lexemes source) [.call ⟨0, 21⟩ ⟨3, 5⟩ "if" [first, second]] := by
    rw [lexed]
    exact ⟨_, _, .call (rfl : opening? _ = some (⟨"if", 0, ⟨3, 5⟩⟩, _)) (by decide)
      (.literal (by simp) rfl rfl rfl <| .pipe rfl <|
        .call (rfl : opening? _ = some (⟨"len", 9, ⟨12, 15⟩⟩, _)) (by decide)
          (.pipe rfl (.closing rfl)) (.closing (rfl : closing? _ = some (⟨19, 21⟩, _))))
      (.nil 0)⟩
  have member : .call ⟨0, 21⟩ ⟨3, 5⟩ "if" [first, second] ∈ flatten (parse source) := by
    rw [paired.parse, mergeLiterals_cons (by simp)]
    exact List.mem_append_left _ List.mem_cons_self
  exact ⟨first, second, member, (parse_normal source).2.2 _ _ _ _ member⟩

end Pattern
end CreatureNaming
