import CreatureNaming.Number.Binary64
import CreatureNaming.Stat
import CreatureNaming.Time.Instant

/-! Creatures: their levels, their descent and who owns them. -/

set_option autoImplicit false

namespace CreatureNaming

inductive Sex where
  | male
  | female
  | unknown
  deriving DecidableEq, Repr

namespace Sex

def all : List Sex := [male, female, unknown]

def name : Sex → String
  | male => "Male"
  | female => "Female"
  | unknown => "Unknown"

def short : Sex → String
  | male => "M"
  | female => "F"
  | unknown => "U"

end Sex

/-- How a creature came to its owner. -/
inductive Domestication where
  | wild
  | tamed
  | bred
  deriving DecidableEq, Repr

namespace Domestication

def all : List Domestication := [wild, tamed, bred]

def name : Domestication → String
  | wild => "Wild"
  | tamed => "Tamed"
  | bred => "Bred"

def marker : Domestication → String
  | wild => "W"
  | tamed => "T"
  | bred => "B"

end Domestication

inductive CreatureStatus where
  | available
  | dead
  | unavailable
  | obelisk
  | cryopod
  deriving DecidableEq, Repr

namespace CreatureStatus

def all : List CreatureStatus := [available, dead, unavailable, obelisk, cryopod]

def name : CreatureStatus → String
  | available => "Available"
  | dead => "Dead"
  | unavailable => "Unavailable"
  | obelisk => "Obelisk"
  | cryopod => "Cryopod"

end CreatureStatus

abbrev CreatureId : Type := UInt64

/-- A creature. The lists of levels and values follow the order of the stats and may be shorter;
a negative level is not known. -/
structure Creature where
  id : CreatureId := 0
  /-- The number by which the game knows the creature. -/
  arkId : Option UInt64 := none
  name : String := ""
  species : String := ""
  sex : Sex := .unknown
  owner : String := ""
  tribe : String := ""
  server : String := ""
  wildLevels : List Int32 := []
  breedingValues : List Binary64 := []
  domestication : Domestication := .tamed
  tamingEffectiveness : Option Binary64 := none
  imprintingBonus : Option Binary64 := none
  mutations : UInt32 := 0
  generation : UInt32 := 0
  /-- When the creature came into the collection; none if it is not yet in it. -/
  added : Option Time.Instant := none
  /-- The numbers of the colors of the regions. -/
  colors : List UInt8 := []
  status : CreatureStatus := .available
  isPlaceholder : Bool := false
  deriving DecidableEq

namespace Creature

/-- The level of a stat, if it is known. -/
def level (creature : Creature) (stat : Stat) : Option Int :=
  match creature.wildLevels[stat.index]? with
  | some level => if 0 ≤ level.toInt then some level.toInt else none
  | none => none

def breedingValue (creature : Creature) (stat : Stat) : Option Binary64 :=
  creature.breedingValues[stat.index]?

def isAdded (creature : Creature) : Bool := creature.added.isSome

/-- Whether the levels count for the top and lowest levels of the species. -/
def counts (creature : Creature) : Bool :=
  !creature.isPlaceholder && (creature.status == .available || creature.status == .cryopod)

end Creature

end CreatureNaming
