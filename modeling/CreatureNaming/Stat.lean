import CreatureNaming.Text.Ascii

/-! The stats of a creature, in the order in which its levels and values are kept. -/

set_option autoImplicit false

namespace CreatureNaming

inductive Stat where
  | health
  | stamina
  | torpidity
  | oxygen
  | food
  | water
  | temperature
  | weight
  | meleeDamage
  | speed
  | temperatureFortitude
  | craftingSpeed
  deriving DecidableEq, Repr

namespace Stat

def all : List Stat :=
  [health, stamina, torpidity, oxygen, food, water, temperature, weight, meleeDamage, speed,
    temperatureFortitude, craftingSpeed]

/-- The position of a stat in a creature's lists. -/
def index : Stat → Nat
  | health => 0
  | stamina => 1
  | torpidity => 2
  | oxygen => 3
  | food => 4
  | water => 5
  | temperature => 6
  | weight => 7
  | meleeDamage => 8
  | speed => 9
  | temperatureFortitude => 10
  | craftingSpeed => 11

/-- The two letters that stand for a stat in token names. -/
def code : Stat → String
  | health => "hp"
  | stamina => "st"
  | torpidity => "to"
  | oxygen => "ox"
  | food => "fo"
  | water => "wa"
  | temperature => "te"
  | weight => "we"
  | meleeDamage => "dm"
  | speed => "sp"
  | temperatureFortitude => "fr"
  | craftingSpeed => "cr"

def name : Stat → String
  | health => "Health"
  | stamina => "Stamina"
  | torpidity => "Torpidity"
  | oxygen => "Oxygen"
  | food => "Food"
  | water => "Water"
  | temperature => "Temperature"
  | weight => "Weight"
  | meleeDamage => "Melee Damage"
  | speed => "Speed"
  | temperatureFortitude => "Temperature Fortitude"
  | craftingSpeed => "Crafting Speed"

def abbreviation : Stat → String
  | health => "HP"
  | stamina => "St"
  | torpidity => "To"
  | oxygen => "Ox"
  | food => "Fo"
  | water => "Wa"
  | temperature => "Te"
  | weight => "We"
  | meleeDamage => "Dm"
  | speed => "Sp"
  | temperatureFortitude => "Fr"
  | craftingSpeed => "Cr"

/-- Stats whose breeding values are factors, shown in percent. -/
def isPercentage : Stat → Bool
  | meleeDamage | speed | craftingSpeed => true
  | _ => false

/-- The stat of a code, in any ASCII case. -/
def ofCode? (code : String) : Option Stat :=
  all.find? fun stat => Text.equalFolded stat.code code

theorem mem_all (stat : Stat) : stat ∈ all := by
  cases stat <;> decide

end Stat

end CreatureNaming
