import CreatureNaming.Naming.Render

/-! What a rendering depends on.

Two renderings of a pattern are followed side by side. They ask the same arguments of the same
functions until a unique number comes into play, and from there on both are marked. So the number
shows in a rendering only if the rendering says so.
-/

set_option autoImplicit false

namespace CreatureNaming

/-- Both use the number or neither does. Their texts are the same if neither does, and always if
the number is the `same`. -/
def Rendered.Agrees (same : Prop) (first second : Rendered) : Prop :=
  first.usesNumber = second.usesNumber ∧
    (same ∨ first.usesNumber = false → first.text = second.text)

namespace Rendered.Agrees

variable {same : Prop} {first second : Rendered}

theorem refl (rendered : Rendered) : rendered.Agrees same rendered := ⟨rfl, fun _ => rfl⟩

theorem append {firstRest secondRest : Rendered} (start : first.Agrees same second)
    (rest : firstRest.Agrees same secondRest) :
    (first.append firstRest).Agrees same (second.append secondRest) := by
  refine ⟨by simp only [Rendered.append, start.1, rest.1], fun hidden => ?_⟩
  simp only [Rendered.append, Bool.or_eq_false_iff] at hidden ⊢
  rw [start.2 (hidden.imp_right And.left), rest.2 (hidden.imp_right And.right)]

theorem eq (agrees : first.Agrees same second) (hidden : same ∨ first.usesNumber = false) :
    first = second := by
  obtain ⟨used, text⟩ := agrees
  cases first
  cases second
  cases used
  cases text hidden
  rfl

end Rendered.Agrees

/-- A dialogue takes the same course with renderings that agree, until one uses the number. -/
theorem Query.run_agrees {Item Result : Type} {same : Prop} {first second : Item → Rendered}
    {items : List Item} (agree : ∀ item ∈ items, (first item).Agrees same (second item))
    (query : Query Result) :
    let (result, used) := query.run (items.map fun item _ => first item)
    let (other, usedOther) := query.run (items.map fun item _ => second item)
    used = usedOther ∧ (same ∨ used = false → result = other) := by
  induction query with
  | done result => exact ⟨rfl, fun _ => rfl⟩
  | ask position next ih =>
    simp only [Query.run, List.getElem?_map]
    cases asked : items[position]? with
    | none => exact ih none
    | some item =>
      obtain ⟨used, text⟩ := agree item (List.mem_of_getElem? asked)
      simp only [Option.map_some]
      by_cases shown : same ∨ (first item).usesNumber = false
      · rw [← text shown, ← used]
        obtain ⟨usedLater, result⟩ := ih (some (first item).text)
        refine ⟨by rw [usedLater], fun hidden => result (hidden.imp_right fun unused => ?_)⟩
        exact (Bool.or_eq_false_iff.mp unused).2
      · -- Both are marked from here on, so it no longer matters how they go on.
        obtain ⟨different, marked⟩ := not_or.mp shown
        rw [Bool.not_eq_false] at marked
        simp [← used, marked, different]

/-- A dialogue uses the number only through an argument that does. -/
theorem Query.run_unused {Result : Type} {arguments : List (Unit → Rendered)}
    (unused : ∀ argument ∈ arguments, (argument ()).usesNumber = false) (query : Query Result) :
    (query.run arguments).2 = false := by
  induction query with
  | done result => rfl
  | ask position next ih =>
    unfold Query.run
    split
    · exact ih none
    · next argument asked =>
      exact Bool.or_eq_false_iff.mpr ⟨unused argument (List.mem_of_getElem? asked), ih _⟩

namespace Context

variable {first second : Context} {u v : Unique} {same : Prop}

theorem renderArguments_eq_map (context : Context) (unique : Unique)
    (arguments : List (List Pattern.Node)) :
    context.renderArguments unique arguments =
      arguments.map fun nodes _ => context.render unique nodes := by
  induction arguments with
  | nil => rfl
  | cons nodes rest ih => rw [renderArguments, ih, List.map_cons]

theorem render_append (context : Context) (unique : Unique) (first second : List Pattern.Node) :
    context.render unique (first ++ second) =
      (context.render unique first).append (context.render unique second) := by
  induction first with
  | nil => simp [render, Rendered.append, Rendered.empty]
  | cons node rest ih =>
    simp [render, ih, Rendered.append, String.append_assoc, Bool.or_assoc]

theorem renderCall_agrees
    (works : ∀ (function : Function) count, function.work first count = function.work second count)
    (name : String) {arguments : List (List Pattern.Node)}
    (agree : ∀ nodes ∈ arguments, (first.render u nodes).Agrees same (second.render v nodes)) :
    (first.renderCall name (first.renderArguments u arguments)).Agrees same
      (second.renderCall name (second.renderArguments v arguments)) := by
  unfold renderCall
  -- The function is chosen by name alone, so both calls hold the same dialogue.
  cases Function.ofName? name with
  | none => exact .refl _
  | some function =>
    have answers := Query.run_agrees agree (function.work first arguments.length).run
    simp only [renderArguments_eq_map, List.length_map, ← works]
    revert answers
    cases (function.work first arguments.length).run.run
      (arguments.map fun nodes _ => first.render u nodes) with
    | mk result used =>
      cases (function.work first arguments.length).run.run
        (arguments.map fun nodes _ => second.render v nodes) with
      | mk other usedOther =>
        rintro ⟨rfl, text⟩
        refine ⟨by cases result <;> cases other <;> rfl, fun hidden => ?_⟩
        rw [text (by cases result <;> exact hidden)]

/-- A relation between renderings of two contexts that holds of text and is kept by all that a
pattern builds: nodes one after the other, and calls. -/
structure Congruence (first second : Context) (u v : Unique)
    (related : Rendered → Rendered → Prop) : Prop where
  text : ∀ text, related ⟨text, false⟩ ⟨text, false⟩
  append : ∀ {a b c d}, related a b → related c d → related (a.append c) (b.append d)
  call : ∀ name {arguments : List (List Pattern.Node)},
    (∀ nodes ∈ arguments, related (first.render u nodes) (second.render v nodes)) →
    related (first.renderCall name (first.renderArguments u arguments))
      (second.renderCall name (second.renderArguments v arguments))

section Congruence

variable {related : Rendered → Rendered → Prop}

mutual

/-- A congruence that holds of the tokens of a pattern holds of the pattern. -/
theorem renderNode_related (keeps : Congruence first second u v related) :
    (node : Pattern.Node) →
    (∀ span name, node.mentions (Text.foldCase name) = true →
      related (first.renderToken u span name) (second.renderToken v span name)) →
    related (first.renderNode u node) (second.renderNode v node)
  | .literal _ text, _ => keeps.text text
  | .token span name, tokens => tokens span name (by simp [Pattern.Node.mentions])
  | .call _ _ name arguments, tokens =>
      keeps.call name (renderEach_related keeps arguments tokens)

theorem renderEach_related (keeps : Congruence first second u v related) :
    (arguments : List (List Pattern.Node)) →
    (∀ span name, Pattern.anyMentions (Text.foldCase name) arguments = true →
      related (first.renderToken u span name) (second.renderToken v span name)) →
    ∀ nodes ∈ arguments, related (first.render u nodes) (second.render v nodes)
  | [], _ => by simp
  | nodes :: rest, tokens => by
      simp only [Pattern.anyMentions, Bool.or_eq_true] at tokens
      have start := render_related keeps nodes fun span name mentioned =>
        tokens span name (.inl mentioned)
      have later := renderEach_related keeps rest fun span name mentioned =>
        tokens span name (.inr mentioned)
      exact List.forall_mem_cons.mpr ⟨start, later⟩

theorem render_related (keeps : Congruence first second u v related) :
    (nodes : List Pattern.Node) →
    (∀ span name, Pattern.mentionsIn (Text.foldCase name) nodes = true →
      related (first.renderToken u span name) (second.renderToken v span name)) →
    related (first.render u nodes) (second.render v nodes)
  | [], _ => keeps.text ""
  | node :: rest, tokens => by
      simp only [Pattern.mentionsIn, Bool.or_eq_true] at tokens
      have start := renderNode_related keeps node fun span name mentioned =>
        tokens span name (.inl mentioned)
      have later := render_related keeps rest fun span name mentioned =>
        tokens span name (.inr mentioned)
      exact keeps.append start later

end

end Congruence

/-- Renderings agree if the functions work alike and the tokens of the pattern agree. -/
theorem render_agrees
    (works : ∀ (function : Function) count, function.work first count = function.work second count)
    {nodes : List Pattern.Node}
    (tokens : ∀ span name, Pattern.mentionsIn (Text.foldCase name) nodes = true →
      (first.renderToken u span name).Agrees same (second.renderToken v span name)) :
    (first.render u nodes).Agrees same (second.render v nodes) := by
  refine render_related ?_ nodes tokens
  constructor
  · intro text
    exact .refl ⟨text, false⟩
  · intro _ _ _ _ start rest
    exact start.append rest
  · intro name arguments agree
    exact renderCall_agrees works name agree

theorem renderCall_unused (context : Context) (unique : Unique) (name : String)
    {arguments : List (List Pattern.Node)}
    (unused : ∀ nodes ∈ arguments, (context.render unique nodes).usesNumber = false) :
    (context.renderCall name (context.renderArguments unique arguments)).usesNumber = false := by
  have asked : ∀ argument ∈ context.renderArguments unique arguments,
      (argument ()).usesNumber = false := by
    rw [renderArguments_eq_map]
    exact List.forall_mem_map.mpr unused
  unfold renderCall
  split
  · rfl
  · next function _ =>
    have answers := Query.run_unused asked
      (function.work context (context.renderArguments unique arguments).length).run
    split <;> simp_all

/-- A rendering uses the number only through a token of the pattern that does. -/
theorem render_unused (context : Context) (unique : Unique) {nodes : List Pattern.Node}
    (tokens : ∀ span name, Pattern.mentionsIn (Text.foldCase name) nodes = true →
      (context.renderToken unique span name).usesNumber = false) :
    (context.render unique nodes).usesNumber = false := by
  -- The relation looks at one of the two renderings, which are of the same context.
  have keeps : Congruence context context unique unique
      fun rendered _ => rendered.usesNumber = false := by
    constructor
    · intro text
      rfl
    · intro _ _ _ _ start rest
      exact Bool.or_eq_false_iff.mpr ⟨start, rest⟩
    · intro name arguments unused
      exact context.renderCall_unused unique name unused
  exact render_related keeps nodes tokens

end Context

end CreatureNaming
