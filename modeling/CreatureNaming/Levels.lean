import CreatureNaming.Creature

/-! The top and lowest levels of a species.

For each stat the best level is kept with its holder, and beside it the runner-up. The best level
of all creatures but one is then known without another look at the creatures: it is the
runner-up if that creature holds the best level.
-/

set_option autoImplicit false

namespace CreatureNaming

/-- A best level with its holder, and the best of the others. -/
structure Extreme where
  best : Option (Int × CreatureId) := none
  runnerUp : Option Int := none
  deriving DecidableEq, Repr

namespace Extreme

/-- Take in one more level. -/
def offer (better : Int → Int → Bool) (extreme : Extreme) (level : Int) (id : CreatureId) :
    Extreme :=
  match extreme.best with
  | none => ⟨some (level, id), none⟩
  | some (best, holder) =>
      if better level best then ⟨some (level, id), some best⟩
      else
        match extreme.runnerUp with
        | none => ⟨some (best, holder), some level⟩
        | some second =>
            ⟨some (best, holder), some (if better level second then level else second)⟩

def value (extreme : Extreme) : Option Int := extreme.best.map Prod.fst

/-- The best level of all but one creature. -/
def excluding (extreme : Extreme) (id : CreatureId) : Option Int :=
  match extreme.best with
  | some (best, holder) => if holder = id then extreme.runnerUp else some best
  | none => none

end Extreme

structure SpeciesLevels where
  tops : Stat → Extreme
  lows : Stat → Extreme

namespace SpeciesLevels

/-- The known levels of a stat of the creatures that count. -/
def counted (creatures : List Creature) (stat : Stat) : List (Int × CreatureId) :=
  creatures.filterMap fun creature =>
    if creature.counts then (creature.level stat).map fun level => (level, creature.id) else none

def extreme (better : Int → Int → Bool) (levels : List (Int × CreatureId)) : Extreme :=
  levels.foldl (fun extreme (level, id) => extreme.offer better level id) {}

def compute (creatures : List Creature) : SpeciesLevels where
  tops stat := extreme (fun first second => second < first) (counted creatures stat)
  lows stat := extreme (fun first second => first < second) (counted creatures stat)

def top (levels : SpeciesLevels) (stat : Stat) : Option Int := (levels.tops stat).value

def lowest (levels : SpeciesLevels) (stat : Stat) : Option Int := (levels.lows stat).value

def topExcluding (levels : SpeciesLevels) (stat : Stat) (id : CreatureId) : Option Int :=
  (levels.tops stat).excluding id

def lowestExcluding (levels : SpeciesLevels) (stat : Stat) (id : CreatureId) : Option Int :=
  (levels.lows stat).excluding id

end SpeciesLevels

end CreatureNaming
