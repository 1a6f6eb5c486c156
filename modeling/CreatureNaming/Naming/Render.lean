import CreatureNaming.Function.Work
import CreatureNaming.Pattern.Grammar
import CreatureNaming.Token.Value

/-! Rendering a pattern for a creature.

Rendering never fails: an unknown name renders as nothing, and a function that has no result as
its name and the reason. Beside the text it is kept whether the unique number was rendered; a
reference to it in an argument that no function asks for does not count.
-/

set_option autoImplicit false

namespace CreatureNaming

/-- What stands for the unique number. -/
inductive Unique where
  | number (value : Nat)
  | placeholder
  deriving DecidableEq, Repr

/-- A text, and whether the unique number is part of what it was made from. -/
structure Rendered where
  text : String
  usesNumber : Bool
  deriving DecidableEq, Repr

namespace Rendered

def empty : Rendered := ⟨"", false⟩

def append (first second : Rendered) : Rendered :=
  ⟨first.text ++ second.text, first.usesNumber || second.usesNumber⟩

end Rendered

/-- Answer a dialogue with the renderings of arguments. The second component tells whether an
argument that was asked for used the unique number. -/
def Query.run {Result : Type} (arguments : List (Unit → Rendered)) :
    Query Result → Result × Bool
  | .done result => (result, false)
  | .ask position next =>
      match arguments[position]? with
      | none => (next none).run arguments
      | some argument =>
          let rendered := argument ()
          let (result, used) := (next (some rendered.text)).run arguments
          (result, rendered.usesNumber || used)

namespace Context

/-- A token in a pattern. Random digits differ from place to place. -/
def renderToken (context : Context) (unique : Unique) (span : Span) (name : String) :
    Rendered :=
  match Token.ofName? name with
  | none => .empty
  | some .uniqueNumber =>
      match unique with
      | .number value => ⟨Number.integerText value, true⟩
      | .placeholder => ⟨context.settings.placeholder, true⟩
  | some .random => ⟨context.random span.start, false⟩
  | some token => ⟨token.value context, false⟩

/-- A call in a pattern, given its arguments. -/
def renderCall (context : Context) (name : String) (arguments : List (Unit → Rendered)) :
    Rendered :=
  match Function.ofName? name with
  | none => .empty
  | some function =>
      match Query.run arguments (function.work context arguments.length).run with
      | (.ok text, used) => ⟨text, used⟩
      | (.error error, used) => ⟨"#" ++ function.name ++ ": " ++ error.message, used⟩

mutual

def renderNode (context : Context) (unique : Unique) : Pattern.Node → Rendered
  | .literal _ text => ⟨text, false⟩
  | .token span name => context.renderToken unique span name
  | .call _ _ name arguments =>
      context.renderCall name (renderArguments context unique arguments)

def renderArguments (context : Context) (unique : Unique) :
    List (List Pattern.Node) → List (Unit → Rendered)
  | [] => []
  | nodes :: rest => (fun _ => render context unique nodes) :: renderArguments context unique rest

/-- Render nodes one after the other. -/
def render (context : Context) (unique : Unique) : List Pattern.Node → Rendered
  | [] => .empty
  | node :: rest => (renderNode context unique node).append (render context unique rest)

end

end Context

end CreatureNaming
