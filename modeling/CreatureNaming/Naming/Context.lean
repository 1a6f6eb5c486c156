import CreatureNaming.Color
import CreatureNaming.Levels
import CreatureNaming.Replacements
import CreatureNaming.Settings
import CreatureNaming.Species

/-! All that a name depends on. -/

set_option autoImplicit false

namespace CreatureNaming

/-- A preview searches less, and may show a placeholder for the number. -/
inductive Mode where
  | preview
  | commit
  deriving DecidableEq, Repr

/-- A point in time and how far local time is ahead of universal time, in seconds. -/
structure Moment where
  instant : Time.Instant
  offset : Int
  deriving DecidableEq, Repr

/-- The creature being named and what it is named among. The siblings are the creatures of its
species in the order of the collection; it may be one of them. -/
structure Context where
  creature : Creature
  siblings : List Creature
  species : Option Species := none
  colors : ColorTable := .dyes
  replacements : Replacements := []
  settings : Settings := {}
  mode : Mode := .commit
  now : Moment
  /-- Six random digits for each place of a pattern. -/
  random : Nat → String
  levels : SpeciesLevels := .compute siblings

namespace Context

/-- The siblings but for the creature itself. -/
def others (context : Context) : List Creature :=
  context.siblings.filter fun other => other.id != context.creature.id

def usesStat (context : Context) (stat : Stat) : Bool :=
  match context.species with
  | some species => species.usesStat stat
  | none => true

/-- The creature's level of a stat, if it is known and the species has the stat. -/
def level (context : Context) (stat : Stat) : Option Int :=
  if context.usesStat stat then context.creature.level stat else none

end Context

end CreatureNaming
