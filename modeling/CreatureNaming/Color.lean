import CreatureNaming.Table

/-! Names of colors by their numbers. -/

set_option autoImplicit false

namespace CreatureNaming

abbrev ColorTable : Type := Table UInt8 String

namespace ColorTable

/-- The names of the dyes, from number 1 on. -/
def dyeNames : List String :=
  ["Red", "Blue", "Green", "Yellow", "Cyan", "Magenta", "Light Green", "Light Grey",
    "Light Brown", "Light Orange", "Light Yellow", "Light Red", "Dark Grey", "Black", "Brown",
    "Dark Green", "Dark Red", "White", "Dino Light Red", "Dino Dark Red", "Dino Light Orange",
    "Dino Dark Orange", "Dino Light Yellow", "Dino Dark Yellow", "Dino Light Green",
    "Dino Medium Green", "Dino Dark Green", "Dino Light Blue", "Dino Dark Blue",
    "Dino Light Purple", "Dino Dark Purple", "Dino Light Brown", "Dino Medium Brown",
    "Dino Dark Brown", "Dino Darker Grey", "Dino Albino", "BigFoot0", "BigFoot4", "BigFoot5",
    "WolfFur", "DarkWolfFur", "DragonBase0", "DragonBase1", "DragonFire", "DragonGreen0",
    "DragonGreen1", "DragonGreen2", "DragonGreen3", "WyvernPurple0", "WyvernPurple1",
    "WyvernBlue0", "WyvernBlue1", "Dino Medium Blue", "Dino Deep Blue", "NearWhite", "NearBlack"]

def dyes : ColorTable :=
  dyeNames.zipIdx.map fun (name, position) => (.ofNat (position + 1), name)

/-- The dyes, with some entries added or replaced. -/
def withOverrides (overrides : Table UInt8 String) : ColorTable := Table.putAll overrides dyes

end ColorTable

end CreatureNaming
