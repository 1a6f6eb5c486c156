import CreatureNaming.Proofs.Function.Answers
import CreatureNaming.Proofs.Text.Runs
import CreatureNaming.Proofs.Token.Shown

/-! Calls as they are written.

What stands between the colon, the pipes and the closing of a call is read by itself, one argument
after the other. A text without structural characters is one literal of its argument, and a name
between braces is one token; where one of them is alone, the blanks at both edges are cut off. So a
function is asked with what these texts are rendered to.
-/

set_option autoImplicit false

namespace CreatureNaming

namespace Pattern

variable {text later before after : List Char} {rest : List (List Char)} {name : String}
  {pending stop : Nat} {behind : List Lexeme} {arguments : List (List Node)} {done : List Node}

/-! ## Arguments -/

/-- No character of a text can build a construct. -/
def IsPlainText (text : List Char) : Prop := ∀ c ∈ text, isStructural c = false

theorem isPlainText_of_blank (blank : ∀ c ∈ text, Text.isBlank c = true) : IsPlainText text :=
  fun c member => not_isStructural_of_isBlank (blank c member)

/-- The nodes of a plain text. -/
def literalOf (start : Nat) (text : List Char) : List Node :=
  if text = [] then [] else [.literal ⟨start, start + Text.byteLength text⟩ (.ofList text)]

/-- A plain text in an argument is one literal of it. -/
theorem ArgumentsPaired.plain (plain : IsPlainText text) (stops : Stops later) (start : Nat)
    (others : ArgumentsPaired pending (literalOf start text ++ done)
      (lexemesFrom (start + Text.byteLength text) later) arguments stop behind) :
    ArgumentsPaired pending done (lexemesFrom start (text ++ later)) arguments stop behind := by
  by_cases empty : text = []
  · subst empty
    exact others
  · rw [lexemesFrom_run empty plain stops]
    rw [literalOf, if_neg empty] at others
    exact .literal nofun rfl rfl rfl others

/-- A name between braces in an argument is one token of it. -/
theorem ArgumentsPaired.token (identifier : isIdentifier name = true) (later : List Char)
    (start : Nat)
    (others : ArgumentsPaired pending
      (.token ⟨start, start + Text.byteLength name.toList + 2⟩ name :: done)
      (lexemesFrom (start + Text.byteLength name.toList + 2) later) arguments stop behind) :
    ArgumentsPaired pending done (lexemesFrom start ('{' :: (name.toList ++ '}' :: later)))
      arguments stop behind := by
  obtain ⟨nonempty, characters⟩ := isIdentifier_plain identifier
  have place : start + Text.byteLength name.toList + 2 =
      start + 1 + Text.byteLength name.toList + 1 := by omega
  rw [lexemesFrom_character rfl, lexemesFrom_run nonempty (fun c member => (characters c member).1)
    (stops_cons rfl _), lexemesFrom_character rfl, String.ofList_toList, ← place]
  refine .reference (reference?_written identifier _ _ _ _) ?_
  rw [Span.through]
  rwa [place] at others ⊢

/-- A text that is one argument of a call, with a property of its nodes. -/
def ReadsAsArgument (holds : List Node → Prop) (text : List Char) : Prop :=
  ∀ (later : List Char) (start : Nat), Stops later → ∃ done, holds (argument done.reverse) ∧
    ∀ arguments stop behind,
      ArgumentsPaired 0 done (lexemesFrom (start + Text.byteLength text) later) arguments stop
        behind →
      ArgumentsPaired 0 [] (lexemesFrom start (text ++ later)) arguments stop behind

theorem mergeLiterals_singleton (node : Node) : mergeLiterals [node] = [node] := by
  cases node <;> simp [mergeLiterals]

/-- Alone in its argument, a plain text stands for itself without the blanks at its edges. -/
theorem readsAsArgument_plain (plain : IsPlainText text) :
    ReadsAsArgument (fun nodes => plainText? nodes = some (Text.trim (.ofList text))) text := by
  have trimmed (text : String) : Text.trimEnd (Text.trimStart text) = Text.trim text := by
    rw [Text.trimEnd, Text.trimStart, String.toList_ofList, Text.trim, Text.trimChars]
  intro later start stops
  refine ⟨literalOf start text, ?_, fun arguments stop behind others =>
    .plain plain stops start (by rwa [List.append_nil])⟩
  unfold literalOf
  split_ifs with empty
  · subst empty
    rw [List.reverse_nil, argument, mergeLiterals]
    rfl
  · rw [List.reverse_singleton, argument, mergeLiterals_singleton]
    simp only [mapFirst, mapLast, Node.mapLiteral, trimmed]
    by_cases blank : Text.trim (.ofList text) = "" <;> simp [Node.isEmptyLiteral, blank, plainText?]

/-- The blanks around a token are cut off. -/
theorem argument_token (span : Span) (name : String) (start stop : Nat)
    (blankBefore : ∀ c ∈ before, Text.isBlank c = true)
    (blankAfter : ∀ c ∈ after, Text.isBlank c = true) :
    argument (literalOf start before ++ .token span name :: literalOf stop after) =
      [.token span name] := by
  have first : Text.trimStart (.ofList before) = "" := by
    rw [Text.trimStart, String.toList_ofList, Text.trimStartChars_blank blankBefore]
  have last : Text.trimEnd (.ofList after) = "" := by
    rw [Text.trimEnd, String.toList_ofList, Text.trimEndChars_blank blankAfter]
  unfold literalOf argument
  by_cases noneBefore : before = [] <;> by_cases noneAfter : after = [] <;>
    simp [noneBefore, noneAfter, mergeLiterals, mapFirst, mapLast, Node.mapLiteral,
      Node.isEmptyLiteral, first, last]

/-- Of a token with nothing but blanks around it, only the token is left. -/
theorem readsAsArgument_token (identifier : isIdentifier name = true)
    (blankBefore : ∀ c ∈ before, Text.isBlank c = true)
    (blankAfter : ∀ c ∈ after, Text.isBlank c = true) :
    ReadsAsArgument (fun nodes => ∃ span, nodes = [.token span name])
      (before ++ '{' :: (name.toList ++ '}' :: after)) := by
  intro later start stops
  let first := start + Text.byteLength before
  let next := first + Text.byteLength name.toList + 2
  refine ⟨literalOf next after ++ .token ⟨first, next⟩ name :: literalOf start before, ?_, ?_⟩
  · refine ⟨⟨first, next⟩, ?_⟩
    have reversed (place : Nat) (text : List Char) :
        (literalOf place text).reverse = literalOf place text := by
      unfold literalOf
      split_ifs <;> rfl
    rw [List.reverse_append, List.reverse_cons, reversed, reversed, List.append_assoc,
      List.singleton_append]
    exact argument_token _ name start next blankBefore blankAfter
  · intro arguments stop behind others
    have size : start + Text.byteLength (before ++ '{' :: (name.toList ++ '}' :: after)) =
        next + Text.byteLength after := by
      rw [Text.byteLength_append, byteLength_structural rfl, Text.byteLength_append,
        byteLength_structural rfl]
      omega
    have whole : before ++ '{' :: (name.toList ++ '}' :: after) ++ later =
        before ++ '{' :: (name.toList ++ '}' :: (after ++ later)) := by
      simp
    rw [size] at others
    rw [whole]
    refine .plain (isPlainText_of_blank blankBefore) (stops_cons rfl _) start ?_
    rw [List.append_nil]
    exact .token identifier _ first (.plain (isPlainText_of_blank blankAfter) stops next others)

/-! ## Calls -/

/-- What follows the colon of a call. -/
def argumentsText (text : List Char) : List (List Char) → List Char
  | [] => text ++ ['}', '}']
  | next :: rest => text ++ '|' :: argumentsText next rest

variable {Result : Type} {result : Result} {results : List Result}
  (holds : Result → List Node → Prop)

theorem exists_argumentsPaired (first : ReadsAsArgument (holds result) text)
    (others : List.Forall₂ (fun result => ReadsAsArgument (holds result)) results rest)
    (start : Nat) :
    ∃ arguments stop,
      ArgumentsPaired 0 [] (lexemesFrom start (argumentsText text rest)) arguments stop [] ∧
      List.Forall₂ holds (result :: results) arguments := by
  induction others generalizing text result start with
  | nil =>
    obtain ⟨done, held, reads⟩ := first ['}', '}'] start (stops_cons rfl _)
    have closes : closing? (lexemesFrom (start + Text.byteLength text) ['}', '}']) =
        some (⟨start + Text.byteLength text, start + Text.byteLength text + 1 + 1⟩, []) := by
      rw [lexemesFrom_character rfl, lexemesFrom_character rfl, lexemesFrom]
      rfl
    exact ⟨_, _, reads _ _ _ (.closing closes), .cons held .nil⟩
  | @cons result next results rest second others ih =>
    obtain ⟨done, held, reads⟩ := first ('|' :: argumentsText next rest) start (stops_cons rfl _)
    obtain ⟨arguments, stop, paired, all⟩ := ih second (start + Text.byteLength text + 1)
    refine ⟨argument done.reverse :: arguments, stop, reads _ _ _ ?_, .cons held all⟩
    rw [lexemesFrom_character rfl]
    exact .pipe rfl paired

/-- A call with some texts as its arguments. -/
def callText (name : String) (text : List Char) (rest : List (List Char)) : String :=
  .ofList ('{' :: '{' :: '#' :: (name.toList ++ ':' :: argumentsText text rest))

theorem parse_callText (identifier : isIdentifier name = true)
    (first : ReadsAsArgument (holds result) text)
    (others : List.Forall₂ (fun result => ReadsAsArgument (holds result)) results rest) :
    ∃ span nameSpan arguments,
      parse (callText name text rest) = [.call span nameSpan name arguments] ∧
      List.Forall₂ holds (result :: results) arguments := by
  obtain ⟨nonempty, characters⟩ := isIdentifier_plain identifier
  have run : IsPlainText name.toList := fun c member => (characters c member).1
  obtain ⟨open₁, open₂, hash, middle, colon, place, lexed⟩ :
      ∃ open₁ open₂ hash middle colon place, lexemes (callText name text rest) =
        ⟨.braceOpen, open₁⟩ :: ⟨.braceOpen, open₂⟩ :: ⟨.hash, hash⟩ :: ⟨.text name, middle⟩ ::
          ⟨.colon, colon⟩ :: lexemesFrom place (argumentsText text rest) := by
    rw [lexemes, callText, String.toList_ofList, lexemesFrom_character rfl,
      lexemesFrom_character rfl, lexemesFrom_character rfl,
      lexemesFrom_run nonempty run (stops_cons rfl _), lexemesFrom_character rfl,
      String.ofList_toList]
    exact ⟨_, _, _, _, _, _, rfl⟩
  obtain ⟨arguments, stop, paired, all⟩ := exists_argumentsPaired holds first others place
  have opens := opening?_written identifier open₁ open₂ hash middle colon
    (lexemesFrom place (argumentsText text rest))
  rw [← lexed] at opens
  have whole := NodesPaired.call opens (by decide) paired (.nil 0)
  exact ⟨_, _, arguments, whole.parse.trans (mergeLiterals_singleton _), all⟩

end Pattern

/-! ## What calls show -/

variable {nodes : List Pattern.Node} {text : List Char} {rest : List (List Char)} {shown : String}
  {others : List String}

namespace Context

variable (context : Context) (unique : Unique)

/-- A function is answered with the texts that its arguments are rendered to. -/
theorem given?_renderArguments {arguments : List (List Pattern.Node)}
    (rendered : List.Forall₂ (fun shown nodes => (context.render unique nodes).text = shown) others
      arguments) (position : Nat) :
    given? (context.renderArguments unique arguments) position = others[position]? := by
  induction rendered generalizing position with
  | nil => simp [renderArguments, given?]
  | cons same rendered ih =>
    cases position with
    | zero => exact congrArg some same
    | succ position => exact ih position

theorem render_singleton (node : Pattern.Node) :
    (context.render unique [node]).text = (context.renderNode unique node).text := by
  rw [render, render]
  exact String.append_empty

theorem render_plainText {shown : String} (plain : Pattern.plainText? nodes = some shown) :
    (context.render unique nodes).text = shown := by
  unfold Pattern.plainText? at plain
  split at plain
  · rw [← Option.some.inj plain, render]
    rfl
  · rw [← Option.some.inj plain, render_singleton, renderNode]
  · cases plain

/-- A text is one argument of a call, and rendered to some text. -/
def ShowsAsArgument (shown : String) (text : List Char) : Prop :=
  Pattern.ReadsAsArgument (fun nodes => (context.render unique nodes).text = shown) text

theorem showsAsArgument_plain (plain : Pattern.IsPlainText text) :
    context.ShowsAsArgument unique (Text.trim (.ofList text)) text := by
  intro later start stops
  obtain ⟨done, held, reads⟩ := Pattern.readsAsArgument_plain plain later start stops
  exact ⟨done, context.render_plainText unique held, reads⟩

theorem showsAsArgument_token {token : Token} {before after : List Char}
    (blankBefore : ∀ c ∈ before, Text.isBlank c = true)
    (blankAfter : ∀ c ∈ after, Text.isBlank c = true) (unnumbered : token ≠ .uniqueNumber)
    (known : token ≠ .random) :
    context.ShowsAsArgument unique (token.value context)
      (before ++ '{' :: (token.name.toList ++ '}' :: after)) := by
  intro later start stops
  obtain ⟨done, ⟨span, same⟩, reads⟩ := Pattern.readsAsArgument_token token.isIdentifier_name
    blankBefore blankAfter later start stops
  refine ⟨done, ?_, reads⟩
  have shown : (context.render unique [.token span token.name]).text = token.value context := by
    rw [render_singleton, renderNode, renderToken_value context unique span
      (Token.ofName?_of_foldCase rfl) unnumbered known]
  rwa [← same] at shown

/-- A call shows what its function makes of the texts that its arguments are rendered to. -/
theorem render_callText {name : String} (identifier : Pattern.isIdentifier name = true)
    (first : context.ShowsAsArgument unique shown text)
    (second : List.Forall₂ (context.ShowsAsArgument unique) others rest) :
    ∃ arguments,
      (context.render unique (Pattern.parse (Pattern.callText name text rest))).text =
        (context.renderCall name arguments).text ∧
      ∀ position, given? arguments position = (shown :: others)[position]? := by
  obtain ⟨span, nameSpan, nodes, parsed, rendered⟩ := Pattern.parse_callText
    (fun shown nodes => (context.render unique nodes).text = shown) identifier first second
  refine ⟨context.renderArguments unique nodes, ?_, context.given?_renderArguments unique rendered⟩
  rw [parsed, render_singleton, renderNode]

end Context

end CreatureNaming
