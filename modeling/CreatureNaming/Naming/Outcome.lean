import CreatureNaming.Naming.Render

/-! Choosing the name of a creature.

If the pattern refers to the unique number, the numbers 1, 2, … are tried until the rendering is
the name of no other creature of the species, up to a limit. A rendering that does not use the
number ends the search, because no other number can change it.
-/

set_option autoImplicit false

namespace CreatureNaming

structure Outcome where
  name : String
  /-- The number that was chosen, if one is part of the name. -/
  uniqueNumber : Option Nat := none
  /-- All numbers up to the limit gave names that are taken. -/
  exhausted : Bool := false
  /-- The name is taken, and no number is part of it. -/
  duplicate : Bool := false
  /-- The name is longer than the settings allow. -/
  tooLong : Bool := false
  deriving DecidableEq, Repr

namespace Context

/-- The names that the creature must not get; a creature without a name takes none. -/
def taken (context : Context) : List String :=
  (context.others.map Creature.name).filter fun name => !name.isEmpty

/-- Try a number and, as long as the rendering is taken, up to `more` numbers after it. -/
def searchFrom (context : Context) (nodes : List Pattern.Node) (taken : List String)
    (number more : Nat) : Outcome :=
  let rendered := context.render (.number number) nodes
  if !rendered.usesNumber then
    { name := rendered.text, duplicate := taken.contains rendered.text }
  else if !taken.contains rendered.text then
    { name := rendered.text, uniqueNumber := some number }
  else
    match more with
    | 0 => { name := rendered.text, uniqueNumber := some number, exhausted := true }
    | more + 1 => searchFrom context nodes taken (number + 1) more

/-- How many numbers are tried. An assigned name has at least one. -/
def searchLimit (context : Context) : Nat :=
  match context.mode with
  | .preview => context.settings.previewLimit.toNat
  | .commit => max context.settings.uniqueLimit.toNat 1

/-- The name of a pattern that refers to the unique number. Without numbers to try, its
placeholder is shown. -/
def search (context : Context) (nodes : List Pattern.Node) (taken : List String) : Outcome :=
  match context.searchLimit with
  | 0 => { name := (context.render .placeholder nodes).text }
  | more + 1 => context.searchFrom nodes taken 1 more

def isTooLong (context : Context) (name : String) : Bool :=
  context.settings.maxNameLength != 0 && context.settings.maxNameLength < name.toList.length

/-- The name that a pattern gives to the creature. -/
def generate (context : Context) (nodes : List Pattern.Node) : Outcome :=
  let taken := context.taken
  let outcome : Outcome :=
    if Pattern.mentions "n" nodes then context.search nodes taken
    else
      let name := (context.render .placeholder nodes).text
      { name, duplicate := taken.contains name }
  { outcome with tooLong := context.isTooLong outcome.name }

end Context

end CreatureNaming
