import CreatureNaming.Proofs.Pattern.Canonical
import CreatureNaming.Proofs.Pattern.Pairing

/-! The lexemes of a canonical text.

The text of a node gives the same lexemes wherever it stands, as long as a literal is not followed
by more characters of its last run. In a canonical tree it never is: what follows a literal is an
open brace, a pipe, a closing brace or the end.
-/

set_option autoImplicit false

namespace CreatureNaming.Pattern

/-- No run of text goes on into what follows. -/
def Stops (later : List Char) : Prop :=
  ∀ c ∈ later.head?, isStructural c = true

theorem stops_nil : Stops [] := by
  simp [Stops]

/-- A lexeme that is text wherever it stands. -/
def Lexeme.IsPlain (lexeme : Lexeme) : Prop :=
  lexeme.kind ≠ .braceOpen ∧ lexeme.kind ≠ .braceClose ∧ lexeme.kind ≠ .pipe

/-- What lexemes contribute when they are read as text. -/
def textOf : List Lexeme → String
  | [] => ""
  | first :: rest => first.literal ++ textOf rest

mutual

/-- Some lexemes are those of a node's text, wherever it stands. -/
def Node.Lexed : Node → List Lexeme → Prop
  | .literal _ text, lexed => (∀ lexeme ∈ lexed, lexeme.IsPlain) ∧ textOf lexed = text
  | .token _ name, lexed => ∃ first middle last,
      lexed = [⟨.braceOpen, first⟩, ⟨.text name, middle⟩, ⟨.braceClose, last⟩]
  | .call _ _ name arguments, lexed => ∃ first second hash middle colon inner third last,
      lexed = ⟨.braceOpen, first⟩ :: ⟨.braceOpen, second⟩ :: ⟨.hash, hash⟩ ::
        ⟨.text name, middle⟩ :: ⟨.colon, colon⟩ ::
          (inner ++ [⟨.braceClose, third⟩, ⟨.braceClose, last⟩]) ∧
      ArgumentsLexed arguments inner

def ArgumentsLexed : List (List Node) → List Lexeme → Prop
  | [], lexed => lexed = []
  | [nodes], lexed => NodesLexed nodes lexed
  | nodes :: next :: rest, lexed => ∃ first span others,
      lexed = first ++ ⟨.pipe, span⟩ :: others ∧ NodesLexed nodes first ∧
      ArgumentsLexed (next :: rest) others

def NodesLexed : List Node → List Lexeme → Prop
  | [], lexed => lexed = []
  | node :: rest, lexed => ∃ first others,
      lexed = first ++ others ∧ node.Lexed first ∧ NodesLexed rest others

end

theorem stops_cons {c : Char} (structural : isStructural c = true) (rest : List Char) :
    Stops (c :: rest) := by
  rintro d ⟨⟩
  exact structural

/-! ## One lexeme -/

theorem lexemesFrom_character {c : Char} {kind : Lexeme.Kind}
    (named : Lexeme.Kind.ofStructural? c = some kind) (start : Nat) (rest : List Char) :
    lexemesFrom start (c :: rest) = ⟨kind, ⟨start, start + 1⟩⟩ :: lexemesFrom (start + 1) rest := by
  have structural : ¬isStructural c = false := by
    unfold Lexeme.Kind.ofStructural? at named
    split at named <;> first | decide | cases named
  rw [lexemesFrom.eq_def]
  simp [structural, named]

theorem lexemesFrom_escaped {c : Char} (structural : isStructural c = true) (start : Nat)
    (rest : List Char) :
    lexemesFrom start ('\\' :: c :: rest) =
      ⟨.escaped c, ⟨start, start + 2⟩⟩ :: lexemesFrom (start + 2) rest := by
  have backslash : ¬isStructural '\\' = false := by decide
  have unnamed : Lexeme.Kind.ofStructural? '\\' = none := rfl
  rw [lexemesFrom.eq_def]
  simp [backslash, unnamed, structural]

theorem lexemesFrom_backslash {c : Char} (plain : isStructural c = false) (start : Nat)
    (rest : List Char) :
    lexemesFrom start ('\\' :: c :: rest) =
      ⟨.backslash, ⟨start, start + 1⟩⟩ :: lexemesFrom (start + 1) (c :: rest) := by
  have backslash : ¬isStructural '\\' = false := by decide
  have unnamed : Lexeme.Kind.ofStructural? '\\' = none := rfl
  rw [lexemesFrom.eq_def]
  simp [backslash, unnamed, plain]

theorem lexemesFrom_run {run later : List Char} (nonempty : run ≠ [])
    (plain : ∀ c ∈ run, isStructural c = false) (stops : Stops later) (start : Nat) :
    lexemesFrom start (run ++ later) =
      ⟨.text (.ofList run), ⟨start, start + Text.byteLength run⟩⟩ ::
        lexemesFrom (start + Text.byteLength run) later := by
  have runs : ∀ c ∈ run, (!isStructural c) = true := by simpa using plain
  have taken : (run ++ later).takeWhile (fun c => !isStructural c) = run := by
    rw [List.takeWhile_append_of_pos runs]
    cases later with
    | nil => simp
    | cons c rest => simp [stops c rfl]
  have dropped : (run ++ later).dropWhile (fun c => !isStructural c) = later := by
    rw [List.dropWhile_append_of_pos runs]
    cases later with
    | nil => simp
    | cons c rest => simp [stops c rfl]
  cases run with
  | nil => exact absurd rfl nonempty
  | cons c rest =>
    rw [List.cons_append] at taken dropped ⊢
    rw [lexemesFrom.eq_def]
    simp only [taken, dropped]
    rw [dif_pos (plain c List.mem_cons_self)]

/-! ## Literals -/

theorem escape_run {run : List Char} (plain : ∀ c ∈ run, isStructural c = false)
    (rest : List Char) : escape (run ++ rest) = run ++ escape rest := by
  induction run with
  | nil => rfl
  | cons c run ih =>
    rw [List.forall_mem_cons] at plain
    rw [List.cons_append, escape, if_neg (by simp [plain.1]), ih plain.2, List.cons_append]

/-- A text begins with a run of plain characters, which ends where an escape begins. -/
theorem exists_run (text : List Char) :
    ∃ run rest, text = run ++ rest ∧ (∀ c ∈ run, isStructural c = false) ∧ Stops rest := by
  refine ⟨text.takeWhile fun c => !isStructural c, text.dropWhile fun c => !isStructural c,
    List.takeWhile_append_dropWhile.symm, ?_, ?_⟩
  · intro c member
    simpa using List.all_eq_true.mp List.all_takeWhile c member
  · intro c head
    have := List.head?_dropWhile_not (fun c => !isStructural c) text
    rw [Option.mem_def.mp head] at this
    simpa using this

theorem lexemesFrom_escape {later : List Char} (stops : Stops later) (start : Nat)
    (text : List Char) :
    ∃ lexed stop, lexemesFrom start (escape text ++ later) = lexed ++ lexemesFrom stop later ∧
      (∀ lexeme ∈ lexed, lexeme.IsPlain) ∧ (textOf lexed).toList = text := by
  induction bound : text.length using Nat.strongRecOn generalizing text start with
  | ind _ ih =>
    subst bound
    obtain ⟨run, rest, rfl, plain, runStops⟩ := exists_run text
    by_cases begins : run = []
    · -- The text begins with an escape, if there is any text.
      subst begins
      cases rest with
      | nil => exact ⟨[], start, rfl, by simp, rfl⟩
      | cons c rest =>
        have structural : isStructural c = true := runStops c rfl
        obtain ⟨lexed, stop, same, texts, whole⟩ := ih rest.length (by simp) (start + 2) rest rfl
        refine ⟨⟨.escaped c, ⟨start, start + 2⟩⟩ :: lexed, stop, ?_,
          List.forall_mem_cons.mpr ⟨?_, texts⟩, ?_⟩
        · rw [List.nil_append, escape, if_pos structural, List.cons_append, List.cons_append,
            lexemesFrom_escaped structural, same, List.cons_append]
        · simp [Lexeme.IsPlain]
        · simp [textOf, Lexeme.literal, whole]
    · -- The run stays one lexeme, since an escape or what is known to stop it follows.
      have shorter := List.length_pos_iff.mpr begins
      have followed : Stops (escape rest ++ later) := by
        cases rest with
        | nil => exact stops
        | cons c rest =>
          rw [escape, if_pos (runStops c rfl)]
          exact stops_cons rfl _
      obtain ⟨lexed, stop, same, texts, whole⟩ := ih rest.length (by simp; omega)
        (start + Text.byteLength run) rest rfl
      refine ⟨⟨.text (.ofList run), ⟨start, start + Text.byteLength run⟩⟩ :: lexed, stop, ?_,
        List.forall_mem_cons.mpr ⟨?_, texts⟩, ?_⟩
      · rw [escape_run plain, List.append_assoc, lexemesFrom_run begins plain followed, same,
          List.cons_append]
      · simp [Lexeme.IsPlain]
      · simp [textOf, Lexeme.literal, whole]

/-! ## Trees -/

theorem stops_written {nodes : List Node} {later : List Char} (stops : Stops later)
    (apart : ∀ next ∈ nodes.head?, next.isLiteral = false) : Stops (written nodes ++ later) := by
  cases nodes with
  | nil => exact stops
  | cons node rest =>
    have built := apart node rfl
    cases node with
    | literal span text => cases built
    | token span name => exact stops_cons rfl _
    | call span nameSpan name arguments => exact stops_cons rfl _

mutual

-- Each part is lexed up to what follows it, and the next part goes on from there.
theorem lexemesFrom_node : ∀ (node : Node) (later : List Char) (start : Nat),
    node.isCanonical = true → (node.isLiteral = true → Stops later) →
    ∃ lexed stop, lexemesFrom start (node.written ++ later) = lexed ++ lexemesFrom stop later ∧
      node.Lexed lexed
  | .literal span text, later, start, _, stops => by
    obtain ⟨lexed, stop, same, texts, whole⟩ := lexemesFrom_escape (stops rfl) start text.toList
    exact ⟨lexed, stop, same, texts, String.toList_inj.mp whole⟩
  | .token span name, later, start, canonical, _ => by
    obtain ⟨nonempty, plain⟩ := isIdentifier_plain canonical
    have stops : Stops ('}' :: later) := stops_cons rfl later
    simp only [Node.written, List.cons_append, List.append_assoc, List.nil_append]
    rw [lexemesFrom_character rfl,
      lexemesFrom_run nonempty (fun c member => (plain c member).1) stops,
      lexemesFrom_character rfl, String.ofList_toList]
    exact ⟨[_, _, _], _, rfl, _, _, _, rfl⟩
  | .call span nameSpan name arguments, later, start, canonical, _ => by
    simp only [Node.isCanonical, Bool.and_eq_true] at canonical
    obtain ⟨nonempty, plain⟩ := isIdentifier_plain canonical.1.1
    have stops : Stops (':' :: (writtenArguments arguments ++ '}' :: '}' :: later)) :=
      stops_cons rfl _
    have inside : Stops ('}' :: '}' :: later) := stops_cons rfl _
    simp only [Node.written, List.cons_append, List.append_assoc, List.nil_append]
    rw [lexemesFrom_character rfl, lexemesFrom_character rfl, lexemesFrom_character rfl,
      lexemesFrom_run nonempty (fun c member => (plain c member).1) stops,
      lexemesFrom_character rfl, String.ofList_toList]
    obtain ⟨inner, stop, same, lexed⟩ :=
      lexemesFrom_arguments arguments ('}' :: '}' :: later) _ canonical.2 inside
    have closed (third last : Lexeme) (behind : List Lexeme) :
        inner ++ third :: last :: behind = inner ++ [third, last] ++ behind := by
      simp
    rw [same, lexemesFrom_character rfl, lexemesFrom_character rfl, closed]
    exact ⟨_ :: _ :: _ :: _ :: _ :: _, _, rfl, _, _, _, _, _, inner, _, _, rfl, lexed⟩

theorem lexemesFrom_arguments : ∀ (arguments : List (List Node)) (later : List Char) (start : Nat),
    areCanonicalArguments arguments = true → Stops later →
    ∃ lexed stop, lexemesFrom start (writtenArguments arguments ++ later) =
      lexed ++ lexemesFrom stop later ∧ ArgumentsLexed arguments lexed
  | [], later, start, _, _ => ⟨[], start, rfl, rfl⟩
  | [nodes], later, start, canonical, stops => by
    obtain ⟨-, -, only, -⟩ := areCanonicalArguments_cons canonical
    exact lexemesFrom_nodes nodes later start only stops
  | nodes :: next :: rest, later, start, canonical, stops => by
    obtain ⟨-, -, first, others⟩ := areCanonicalArguments_cons canonical
    have bar : Stops ('|' :: (writtenArguments (next :: rest) ++ later)) := stops_cons rfl _
    obtain ⟨lexed, middle, same, nodesLexed⟩ :=
      lexemesFrom_nodes nodes _ start first bar
    obtain ⟨more, stop, sameMore, restLexed⟩ :=
      lexemesFrom_arguments (next :: rest) later (middle + 1) others stops
    refine ⟨lexed ++ ⟨.pipe, ⟨middle, middle + 1⟩⟩ :: more, stop, ?_, lexed, _, more, rfl,
      nodesLexed, restLexed⟩
    rw [writtenArguments, List.append_assoc, List.cons_append, same, lexemesFrom_character rfl,
      sameMore, List.append_assoc, List.cons_append]

theorem lexemesFrom_nodes : ∀ (nodes : List Node) (later : List Char) (start : Nat),
    areCanonical nodes = true → Stops later →
    ∃ lexed stop, lexemesFrom start (written nodes ++ later) = lexed ++ lexemesFrom stop later ∧
      NodesLexed nodes lexed
  | [], later, start, _, _ => ⟨[], start, rfl, rfl⟩
  | node :: rest, later, start, canonical, stops => by
    obtain ⟨first, apart, others⟩ := areCanonical_cons canonical
    obtain ⟨lexed, middle, same, nodeLexed⟩ :=
      lexemesFrom_node node (written rest ++ later) start first fun literal =>
        stops_written stops (apart literal)
    obtain ⟨more, stop, sameMore, restLexed⟩ := lexemesFrom_nodes rest later middle others stops
    refine ⟨lexed ++ more, stop, ?_, lexed, more, rfl, nodeLexed, restLexed⟩
    rw [written, List.append_assoc, same, sameMore, List.append_assoc]

end

end CreatureNaming.Pattern
