import CreatureNaming.Proofs.Naming.Rendering
import CreatureNaming.Proofs.Token.Names

/-! The unique number shows only where it is rendered.

Each rendering draws random digits of its own, so these statements compare renderings of contexts
that are `redrawn`. Of a pattern without random digits, all that can tell two renderings apart is
the number, and then both are marked.
-/

set_option autoImplicit false

namespace CreatureNaming.Context

/-- The same context with other random digits. -/
def redrawn (context : Context) (random : Nat → String) : Context := { context with random }

theorem value_redrawn (context : Context) (random : Nat → String) {token : Token}
    (known : token ≠ .random) : token.value (context.redrawn random) = token.value context := by
  cases token with
  | random => exact absurd rfl known
  | _ => rfl

theorem work_redrawn (context : Context) (random : Nat → String) (function : Function)
    (count : Nat) : function.work (context.redrawn random) count = function.work context count := by
  cases function <;> rfl

/-! ## Tokens -/

theorem renderToken_number (context : Context) (unique : Unique) (span : Span) {name : String}
    (named : Token.ofName? name = some .uniqueNumber) :
    context.renderToken unique span name = match unique with
      | .number value => ⟨Number.integerText value, true⟩
      | .placeholder => ⟨context.settings.placeholder, true⟩ := by
  cases unique <;> simp only [renderToken, named]

theorem renderToken_value (context : Context) (unique : Unique) (span : Span) {name : String}
    {token : Token} (named : Token.ofName? name = some token) (unnumbered : token ≠ .uniqueNumber)
    (known : token ≠ .random) :
    context.renderToken unique span name = ⟨token.value context, false⟩ := by
  unfold renderToken
  rw [named]
  split <;> simp_all

theorem renderToken_agrees (context : Context) (random other : Nat → String) (u v : Unique)
    (span : Span) {name : String} (fixed : Text.foldCase name ≠ Text.foldCase "rnd") :
    ((context.redrawn random).renderToken u span name).Agrees (u = v)
      ((context.redrawn other).renderToken v span name) := by
  cases named : Token.ofName? name with
  | none =>
    unfold renderToken
    rw [named]
    exact .refl .empty
  | some token =>
    have known : token ≠ .random := by
      rintro rfl
      exact fixed (Token.foldCase_of_ofName? named).symm
    by_cases numbered : token = .uniqueNumber
    · subst numbered
      -- Both are marked whatever they show, so the texts agree only if the number is the same.
      rw [renderToken_number _ _ _ named, renderToken_number _ _ _ named]
      refine ⟨by cases u <;> cases v <;> rfl, fun hidden => ?_⟩
      rcases hidden with rfl | unmarked
      · rfl
      · cases u <;> cases unmarked
    · rw [renderToken_value _ _ _ named numbered known,
        renderToken_value _ _ _ named numbered known, value_redrawn _ _ known,
        value_redrawn _ _ known]
      exact .refl _

theorem renderToken_unused (context : Context) (unique : Unique) (span : Span) {name : String}
    (other : Text.foldCase name ≠ Text.foldCase "n") :
    (context.renderToken unique span name).usesNumber = false := by
  unfold renderToken
  split
  · rfl
  · next named => exact absurd (Token.foldCase_of_ofName? named).symm other
  · rfl
  · rfl

/-! ## Patterns -/

theorem ne_of_mentions {name folded : String} {nodes : List Pattern.Node}
    (absent : Pattern.mentionsIn folded nodes = false)
    (mentioned : Pattern.mentionsIn (Text.foldCase name) nodes = true) :
    Text.foldCase name ≠ folded := by
  rintro rfl
  rw [absent] at mentioned
  cases mentioned

theorem render_redrawn_agrees (context : Context) (random other : Nat → String) (u v : Unique)
    {nodes : List Pattern.Node} (fixed : Pattern.mentions "rnd" nodes = false) :
    ((context.redrawn random).render u nodes).Agrees (u = v)
      ((context.redrawn other).render v nodes) := by
  apply render_agrees
  · intro function count
    rw [work_redrawn, work_redrawn]
  · intro span name mentioned
    exact renderToken_agrees context random other u v span (ne_of_mentions fixed mentioned)

/-- Random digits that no token shows do not matter. -/
theorem render_redrawn (context : Context) (random : Nat → String) (unique : Unique)
    {nodes : List Pattern.Node} (fixed : Pattern.mentions "rnd" nodes = false) :
    (context.redrawn random).render unique nodes = context.render unique nodes :=
  (context.render_redrawn_agrees random context.random unique unique fixed).eq (.inl rfl)

/-- A rendering that does not use the number is the rendering with any number. -/
theorem render_eq_of_unused {context : Context} {nodes : List Pattern.Node}
    (fixed : Pattern.mentions "rnd" nodes = false) {tried : Unique}
    (unused : (context.render tried nodes).usesNumber = false) (unique : Unique) :
    context.render unique nodes = context.render tried nodes := by
  have agrees := context.render_redrawn_agrees context.random context.random tried unique fixed
  exact (agrees.eq (.inr unused)).symm

theorem render_unmentioned (context : Context) (unique : Unique) {nodes : List Pattern.Node}
    (absent : Pattern.mentions "n" nodes = false) :
    (context.render unique nodes).usesNumber = false := by
  apply render_unused
  intro span name mentioned
  exact context.renderToken_unused unique span (ne_of_mentions absent mentioned)

/-- The number comes out only through a rendered reference to it. Whether one is rendered does not
depend on the number; if none is, neither does the text; and none is rendered if there is none. -/
theorem render_hides_number (context : Context) (nodes : List Pattern.Node) (u v : Unique)
    (random other : Nat → String) :
    (Pattern.mentions "rnd" nodes = false →
      let first := (context.redrawn random).render u nodes
      let second := (context.redrawn other).render v nodes
      (first.usesNumber = true ↔ second.usesNumber = true) ∧
        (first.usesNumber = false → first.text = second.text)) ∧
    (Pattern.mentions "n" nodes = false → (context.render u nodes).usesNumber = false) := by
  refine ⟨fun fixed => ?_, context.render_unmentioned u⟩
  have ⟨used, text⟩ := context.render_redrawn_agrees random other u v fixed
  exact ⟨by rw [used], fun unused => text (.inr unused)⟩

/-- A number in a branch that is not taken, and a pattern without a number. -/
theorem render_hides_number_untaken :
    let context : Context :=
      { creature := {}, siblings := [], now := ⟨⟨0, 0⟩, 0⟩, random := fun _ => "000000" }
    let branching : List Pattern.Node :=
      [.literal ⟨0, 3⟩ "Rex", .call ⟨3, 18⟩ ⟨6, 8⟩ "if" [[], [.token ⟨12, 15⟩ "N"]]]
    let first := (context.redrawn fun _ => "111111").render (.number 7) branching
    let second := (context.redrawn fun _ => "222222").render .placeholder branching
    let plain : List Pattern.Node := [.token ⟨0, 9⟩ "species"]
    Pattern.mentions "rnd" branching = false ∧
      (first.usesNumber = true ↔ second.usesNumber = true) ∧
      (first.usesNumber = false → first.text = second.text) ∧
      Pattern.mentions "n" plain = false ∧
      (context.render (.number 7) plain).usesNumber = false := by
  intro context branching first second plain
  have fixed : Pattern.mentions "rnd" branching = false := by decide
  have absent : Pattern.mentions "n" plain = false := by decide
  have ⟨used, text⟩ := (render_hides_number context branching (.number 7) .placeholder
    (fun _ => "111111") fun _ => "222222").1 fixed
  exact ⟨fixed, used, text, absent,
    (render_hides_number context plain (.number 7) .placeholder (fun _ => "") fun _ => "").2 absent⟩

end CreatureNaming.Context
