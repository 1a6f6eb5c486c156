import CreatureNaming.Proofs.Pattern.Run
import CreatureNaming.Proofs.Pattern.Shift
import CreatureNaming.Proofs.Text.Runs

/-! A call that is not closed yet.

Its opening stays pending below everything that follows it, and is text in the end. What follows is
read as it would be alone, unless it has a closing to spare, which would close the call, or comes so
close to the limit of pending openings that one more matters.
-/

set_option autoImplicit false

namespace CreatureNaming.Pattern

/-- The pairing meets no closing where nothing is pending, and no opening where with one more
pending there were no room. -/
structure StandsFree (pending : Nat) (input : List Lexeme) : Prop where
  closings : ∀ count here span rest, Meets pending input count here →
    closing? here = some (span, rest) → 0 < count
  openings : ∀ count here found rest, Meets pending input count here →
    opening? here = some (found, rest) → count + 1 < maxCallDepth

/-- A text before some nodes, in one literal with the text that they begin with. -/
def precededBy (span : Span) (text : String) : List Node → List Node
  | .literal next more :: rest => .literal (span.through next) (text ++ more) :: rest
  | nodes => .literal span text :: nodes

variable {pending count next stop : Nat} {input here rest : List Lexeme} {done nodes : List Node}
  {arguments : List (List Node)}

/-! ## With one opening more pending -/

theorem StandsFree.behind (free : StandsFree pending input)
    (meets : Meets pending input count here) : StandsFree count here :=
  ⟨fun _ _ _ _ further => free.closings _ _ _ _ (meets.trans further),
    fun _ _ _ _ further => free.openings _ _ _ _ (meets.trans further)⟩

theorem StandsFree.nil (pending : Nat) : StandsFree pending [] := by
  refine ⟨fun count here span rest meets closes => ?_, fun count here found rest meets opens => ?_⟩
  · rw [meets.eq_nil.1] at closes
    cases closes
  · rw [meets.eq_nil.1] at opens
    cases opens

theorem StandsFree.step (step : pairingStep? pending input = some (next, rest))
    (spare : closing? input = none ∨ 0 < pending)
    (room : opening? input = none ∨ pending + 1 < maxCallDepth) (free : StandsFree next rest) :
    StandsFree pending input := by
  refine ⟨fun count here span behind meets closes => ?_,
    fun count here found behind meets opens => ?_⟩
  · rcases meets.cases_step step with ⟨rfl, rfl⟩ | meets
    · exact spare.resolve_left (by simp [closes])
    · exact free.closings _ _ _ _ meets closes
  · rcases meets.cases_step step with ⟨rfl, rfl⟩ | meets
    · exact room.resolve_left (by simp [opens])
    · exact free.openings _ _ _ _ meets opens

theorem ArgumentsPaired.deeper (paired : ArgumentsPaired pending done input arguments stop rest)
    (free : StandsFree (pending + 1) input) :
    ArgumentsPaired (pending + 1) done input arguments stop rest := by
  induction paired with
  | closing closes => exact .closing closes
  | pipe separates others ih =>
    obtain ⟨unopened, unreferred, unclosed⟩ := unbuilt_pipe _ separates
    exact .pipe separates
      (ih (free.behind (.step (pairingStep?_single unopened unreferred (.inl unclosed)))))
  | call opens room inside others ihInside ihOthers =>
    have entered := Meets.step (pairingStep?_opening opens room)
    exact .call opens (free.openings _ _ _ _ (.here _ _) opens) (ihInside (free.behind entered))
      (ihOthers (free.behind (entered.trans inside.meets)))
  | tooDeep opens deep others ih =>
    have room := free.openings _ _ _ _ (.here _ _) opens
    exact absurd (Nat.lt_of_succ_lt room) deep
  | reference refers others ih =>
    exact .reference refers (ih (free.behind (.step (pairingStep?_reference _ refers))))
  | literal inside unopened unreferred unclosed others ih =>
    exact .literal inside unopened unreferred unclosed
      (ih (free.behind (.step (pairingStep?_single unopened unreferred (.inl unclosed)))))

/-- An opening that stays pending around an input changes nothing in it. -/
theorem NodesPaired.deeper (paired : NodesPaired pending input nodes)
    (free : StandsFree pending input) : NodesPaired (pending + 1) input nodes := by
  induction paired with
  | nil pending => exact .nil _
  | call opens room inside others ih =>
    have entered := Meets.step (pairingStep?_opening opens room)
    exact .call opens (free.openings _ _ _ _ (.here _ _) opens)
      (inside.deeper (free.behind entered)) (ih (free.behind (entered.trans inside.meets)))
  | unclosed opens room others ih =>
    exact .unclosed opens (free.openings _ _ _ _ (.here _ _) opens)
      (ih (free.behind (.step (pairingStep?_opening opens room))))
  | tooDeep opens deep others ih =>
    have room := free.openings _ _ _ _ (.here _ _) opens
    exact absurd (Nat.lt_of_succ_lt room) deep
  | reference refers others ih =>
    exact .reference refers (ih (free.behind (.step (pairingStep?_reference _ refers))))
  | @literal pending first rest nodes unopened unreferred unclosed others ih =>
    refine .literal unopened unreferred (.inl ?_)
      (ih (free.behind (.step (pairingStep?_single unopened unreferred unclosed))))
    cases closes : closing? (first :: rest) with
    | none => rfl
    | some closed =>
      -- The closing would have been one too many.
      have opened := free.closings _ _ _ _ (.here _ _) closes
      exact absurd (unclosed.resolve_left (by simp [closes])) (Nat.ne_of_gt opened)

/-! ## The text of the opening -/

theorem mergeLiterals_precededBy (span : Span) (text : String) (nodes : List Node) :
    mergeLiterals (.literal span text :: nodes) = precededBy span text (mergeLiterals nodes) := by
  fun_induction mergeLiterals nodes generalizing span text with
  | case1 first firstText second secondText rest ih =>
    rw [mergeLiterals.eq_1, mergeLiterals.eq_1, ← ih, mergeLiterals.eq_1, String.append_assoc]
    rfl
  | case2 node rest unmerged ih =>
    cases node with
    | literal first firstText =>
      rw [mergeLiterals.eq_1, mergeLiterals_cons fun _ => apart_of_unmerged unmerged rfl]
      rfl
    | token first name =>
      rw [mergeLiterals_cons (by simp [Node.isLiteral]),
        mergeLiterals_cons (by simp [Node.isLiteral])]
      rfl
    | call first nameSpan name arguments =>
      rw [mergeLiterals_cons (by simp [Node.isLiteral]),
        mergeLiterals_cons (by simp [Node.isLiteral])]
      rfl
  | case3 => simp [mergeLiterals, precededBy]

/-- Blanks around an identifier are cut off. -/
theorem trim_padded {before name after : String} (blankBefore : Text.allBlank before = true)
    (identifier : isIdentifier name = true) (blankAfter : Text.allBlank after = true) :
    Text.trim (before ++ name ++ after) = name := by
  obtain ⟨nonempty, plain⟩ := isIdentifier_plain identifier
  have starts : Text.StopsRun Text.isBlank name.toList :=
    fun c head => (plain c (List.mem_of_head? head)).2
  have ends : ∀ c ∈ name.toList.getLast?, Text.isBlank c = false :=
    fun c last => (plain c (List.mem_of_getLast? last)).2
  rw [Text.trim, String.toList_append, String.toList_append,
    Text.trimChars_append (List.all_eq_true.mp blankBefore) (List.all_eq_true.mp blankAfter)
      nonempty starts ends, String.ofList_toList]

/-- The opening of a call, as it may be typed. -/
def typedOpening (before name after : String) : String :=
  "\x7b\x7b#" ++ (before ++ name ++ after) ++ ":"

def typedLexemes (before name after : String) : List Lexeme :=
  let stop := 3 + Text.byteLength (before ++ name ++ after).toList
  [⟨.braceOpen, ⟨0, 1⟩⟩, ⟨.braceOpen, ⟨1, 2⟩⟩, ⟨.hash, ⟨2, 3⟩⟩,
    ⟨.text (before ++ name ++ after), ⟨3, stop⟩⟩, ⟨.colon, ⟨stop, stop + 1⟩⟩]

variable {before name after : String}

theorem toList_typedOpening (before name after : String) :
    (typedOpening before name after).toList =
      '{' :: '{' :: '#' :: ((before ++ name ++ after).toList ++ [':']) := by
  rw [typedOpening, String.toList_append, String.toList_append]
  rfl

theorem byteLength_typedOpening (before name after : String) :
    Text.byteLength (typedOpening before name after).toList =
      3 + Text.byteLength (before ++ name ++ after).toList + 1 := by
  rw [toList_typedOpening, byteLength_structural rfl, byteLength_structural rfl,
    byteLength_structural rfl, Text.byteLength_append, byteLength_structural rfl,
    Text.byteLength_nil]
  omega

theorem lexemes_typedOpening (blankBefore : Text.allBlank before = true)
    (identifier : isIdentifier name = true) (blankAfter : Text.allBlank after = true)
    (source : String) :
    lexemes (typedOpening before name after ++ source) =
      typedLexemes before name after ++ (lexemes source).map
        (Lexeme.shift (Text.byteLength (typedOpening before name after).toList)) := by
  have plain : ∀ c ∈ (before ++ name ++ after).toList, isStructural c = false := by
    simp only [String.toList_append, List.forall_mem_append]
    refine ⟨⟨fun c member => ?_, fun c member => ?_⟩, fun c member => ?_⟩
    · exact not_isStructural_of_isBlank (List.all_eq_true.mp blankBefore c member)
    · exact ((isIdentifier_plain identifier).2 c member).1
    · exact not_isStructural_of_isBlank (List.all_eq_true.mp blankAfter c member)
  have nonempty : (before ++ name ++ after).toList ≠ [] := by
    simp [(isIdentifier_plain identifier).1]
  rw [byteLength_typedOpening, lexemes, String.toList_append, toList_typedOpening]
  simp only [List.cons_append, List.append_assoc, List.nil_append]
  rw [lexemesFrom_character rfl, lexemesFrom_character rfl, lexemesFrom_character rfl,
    lexemesFrom_run nonempty plain (stops_cons rfl _), lexemesFrom_character rfl,
    String.ofList_toList, lexemes, ← lexemesFrom_shift]
  simp [typedLexemes, Nat.add_assoc]

theorem opening?_typedLexemes (blankBefore : Text.allBlank before = true)
    (identifier : isIdentifier name = true) (blankAfter : Text.allBlank after = true)
    (rest : List Lexeme) :
    ∃ found, opening? (typedLexemes before name after ++ rest) = some (found, rest) := by
  have named := trim_padded blankBefore identifier blankAfter
  simp [typedLexemes, opening?, named, identifier]

/-- As text, an opening is one literal. -/
theorem mergeLiterals_typedLexemes (before name after : String) (nodes : List Node) :
    mergeLiterals ((typedLexemes before name after).map Lexeme.toNode ++ nodes) =
      precededBy ⟨0, Text.byteLength (typedOpening before name after).toList⟩
        (typedOpening before name after) (mergeLiterals nodes) := by
  have text : "\x7b" ++ "\x7b" ++ "#" ++ (before ++ name ++ after) ++ ":" =
      typedOpening before name after := rfl
  rw [← mergeLiterals_precededBy, byteLength_typedOpening, ← text]
  simp only [typedLexemes, List.map_cons, List.map_nil, Lexeme.toNode, Lexeme.literal,
    List.cons_append, List.nil_append]
  iterate 4 rw [mergeLiterals.eq_1]
  rfl

/-! ## What follows -/

/-- The opening of a call that is not closed stands as text before the nodes of what follows, unless
the pairing of what follows meets a closing with nothing pending or an opening at the limit. -/
theorem parse_typedOpening (before name after source : String)
    (blankBefore : Text.allBlank before = true) (identifier : isIdentifier name = true)
    (blankAfter : Text.allBlank after = true) (free : StandsFree 0 (lexemes source)) :
    let text := typedOpening before name after
    let size := Text.byteLength text.toList
    parse (text ++ source) = precededBy ⟨0, size⟩ text (shiftNodes size (parse source)) := by
  intro text size
  obtain ⟨nodes, paired, same⟩ := exists_parse_eq source
  obtain ⟨found, opens⟩ := opening?_typedLexemes blankBefore identifier blankAfter
    ((lexemes source).map (Lexeme.shift size))
  have whole := NodesPaired.unclosed opens (by decide) ((paired.deeper free).shift size)
  rw [← lexemes_typedOpening blankBefore identifier blankAfter] at whole
  rw [whole.parse, same, shiftNodes_mergeLiterals, lexemes_typedOpening blankBefore identifier
    blankAfter]
  exact mergeLiterals_typedLexemes before name after _

/-- Before a text and a call. -/
theorem parse_typedOpening_call :
    let source := "a\x7b\x7b#len:b\x7d\x7d"
    let text := typedOpening " " "if" ""
    StandsFree 0 (lexemes source) ∧
      parse (text ++ source) = precededBy ⟨0, 7⟩ text (shiftNodes 7 (parse source)) := by
  intro source text
  have lexed : lexemes source =
      [⟨.text "a", ⟨0, 1⟩⟩, ⟨.braceOpen, ⟨1, 2⟩⟩, ⟨.braceOpen, ⟨2, 3⟩⟩, ⟨.hash, ⟨3, 4⟩⟩,
        ⟨.text "len", ⟨4, 7⟩⟩, ⟨.colon, ⟨7, 8⟩⟩, ⟨.text "b", ⟨8, 9⟩⟩, ⟨.braceClose, ⟨9, 10⟩⟩,
        ⟨.braceClose, ⟨10, 11⟩⟩] := by decide +kernel
  have free : StandsFree 0 (lexemes source) := by
    rw [lexed]
    refine .step rfl (.inl rfl) (.inl rfl) ?_
    refine .step rfl (.inl rfl) (.inr (by decide)) ?_
    refine .step rfl (.inl rfl) (.inl rfl) ?_
    exact .step rfl (.inr (by decide)) (.inl rfl) (.nil 0)
  exact ⟨free, parse_typedOpening " " "if" "" source (by decide) (by decide) (by decide) free⟩

end CreatureNaming.Pattern
