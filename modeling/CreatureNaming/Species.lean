import CreatureNaming.Stat
import CreatureNaming.Table

/-! What is known of a species: how it calls its stats, which it has, and its color regions. -/

set_option autoImplicit false

namespace CreatureNaming

structure Species where
  name : String := ""
  /-- Names of stats by their lower-case codes, where they differ from the usual ones. -/
  statNames : Table String String := []
  /-- The codes of the stats that the species has; all stats when absent. -/
  usedStats : Option (List String) := none
  /-- The names of the color regions; a region without a name is not used. -/
  colorRegions : List (Option String) := []
  deriving DecidableEq, Repr

namespace Species

def statName (species : Species) (stat : Stat) : String :=
  (species.statNames.get? stat.code).getD stat.name

def usesStat (species : Species) (stat : Stat) : Bool :=
  match species.usedStats with
  | some codes => codes.any fun code => Text.equalFolded code stat.code
  | none => true

/-- Whether a color region exists and has a name. -/
def usesRegion (species : Species) (region : Nat) : Bool :=
  match species.colorRegions[region]? with
  | some (some _) => true
  | _ => false

end Species

end CreatureNaming
