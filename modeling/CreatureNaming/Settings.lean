import CreatureNaming.Stat

/-! The settings of naming. -/

set_option autoImplicit false

namespace CreatureNaming

structure Settings where
  /-- The most numbers tried when a name is assigned. -/
  uniqueLimit : UInt32 := 10000
  /-- The most numbers tried in a preview; with none, the placeholder is shown. -/
  previewLimit : UInt32 := 100
  placeholder : String := "#"
  /-- The longest name, in characters; zero for no limit. -/
  maxNameLength : Nat := 24
  /-- The stats whose levels make up the percentage of top levels. -/
  consideredStats : List Stat := [.health, .stamina, .oxygen, .food, .weight, .meleeDamage]
  replacementsFile : Option String := none
  deriving DecidableEq, Repr

end CreatureNaming
