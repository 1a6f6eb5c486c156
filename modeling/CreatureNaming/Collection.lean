import CreatureNaming.Color
import CreatureNaming.Creature
import CreatureNaming.Json.Decode
import CreatureNaming.Json.Printer
import CreatureNaming.Json.Reader
import CreatureNaming.Replacements
import CreatureNaming.Species

/-! Collections of creatures with what is known of their species and colors, and their documents.
-/

set_option autoImplicit false

namespace CreatureNaming

structure Collection where
  creatures : List Creature := []
  species : List Species := []
  /-- Names of colors that differ from those of the dyes. -/
  colors : Table UInt8 String := []
  deriving DecidableEq

namespace Collection

/-- The first creature with a number. -/
def find? (collection : Collection) (id : CreatureId) : Option Creature :=
  collection.creatures.find? fun creature => creature.id == id

/-- The first definition of a species. -/
def species? (collection : Collection) (name : String) : Option Species :=
  collection.species.find? fun species => species.name == name

/-- The creatures of a species. -/
def siblings (collection : Collection) (species : String) : List Creature :=
  collection.creatures.filter fun creature => creature.species == species

def colorTable (collection : Collection) : ColorTable := .withOverrides collection.colors

/-- Set the names of creatures. The last name for a number counts, and all creatures with that
number get it. -/
def applyNames (names : List (CreatureId × String)) (collection : Collection) : Collection :=
  let table : Table CreatureId String := Table.putAll names []
  { collection with
    creatures := collection.creatures.map fun creature =>
      match table.get? creature.id with
      | some name => { creature with name }
      | none => creature }

end Collection

namespace Creature

open Json (RecordField)

def instant? (document : Json) : Option Time.Instant :=
  document.text?.bind Time.Instant.read?

def fields : List (RecordField Creature) :=
  [.of "id" Json.uint64? fun id creature => { creature with id },
    .of "arkId" (Json.optional? Json.uint64?) fun arkId creature => { creature with arkId },
    .of "name" Json.text? fun name creature => { creature with name },
    .of "species" Json.text? fun species creature => { creature with species },
    .of "sex" (Json.choice? Sex.all Sex.name) fun sex creature => { creature with sex },
    .of "owner" Json.text? fun owner creature => { creature with owner },
    .of "tribe" Json.text? fun tribe creature => { creature with tribe },
    .of "server" Json.text? fun server creature => { creature with server },
    .of "levelsWild" (Json.list? Json.int32?)
      fun wildLevels creature => { creature with wildLevels },
    .of "valuesBreeding" (Json.list? Json.binary64?)
      fun breedingValues creature => { creature with breedingValues },
    .of "domestication" (Json.choice? Domestication.all Domestication.name)
      fun domestication creature => { creature with domestication },
    .of "tamingEffectiveness" (Json.optional? Json.binary64?)
      fun tamingEffectiveness creature => { creature with tamingEffectiveness },
    .of "imprintingBonus" (Json.optional? Json.binary64?)
      fun imprintingBonus creature => { creature with imprintingBonus },
    .of "mutations" Json.uint32? fun mutations creature => { creature with mutations },
    .of "generation" Json.uint32? fun generation creature => { creature with generation },
    .of "addedToLibrary" (Json.optional? instant?) fun added creature => { creature with added },
    .of "colors" (Json.list? Json.uint8?) fun colors creature => { creature with colors },
    .of "status" (Json.choice? CreatureStatus.all CreatureStatus.name)
      fun status creature => { creature with status },
    .of "isPlaceholder" Json.bool?
      fun isPlaceholder creature => { creature with isPlaceholder }]

def ofJson? (document : Json) : Option Creature := document.record? fields {}

/-- The document of a creature; `number` writes the numbers that have fractions. -/
def toJson (number : Binary64 → Json) (creature : Creature) : Json :=
  .record
    [("id", .ofNat creature.id.toNat),
      ("arkId", .ofOption (fun id => .ofNat id.toNat) creature.arkId),
      ("name", .ofText creature.name),
      ("species", .ofText creature.species),
      ("sex", .ofText creature.sex.name),
      ("owner", .ofText creature.owner),
      ("tribe", .ofText creature.tribe),
      ("server", .ofText creature.server),
      ("levelsWild", .array (creature.wildLevels.map fun level => .ofInt level.toInt)),
      ("valuesBreeding", .array (creature.breedingValues.map number)),
      ("domestication", .ofText creature.domestication.name),
      ("tamingEffectiveness", .ofOption number creature.tamingEffectiveness),
      ("imprintingBonus", .ofOption number creature.imprintingBonus),
      ("mutations", .ofNat creature.mutations.toNat),
      ("generation", .ofNat creature.generation.toNat),
      ("addedToLibrary", .ofOption (fun added => .ofText added.text) creature.added),
      ("colors", .array (creature.colors.map fun color => .ofNat color.toNat)),
      ("status", .ofText creature.status.name),
      ("isPlaceholder", .bool creature.isPlaceholder)]

end Creature

namespace Species

open Json (RecordField)

def fields : List (RecordField Species) :=
  [.of "name" Json.text? fun name species => { species with name },
    .of "statNames" (Json.table? Json.text?) fun statNames species => { species with statNames },
    .of "usedStats" (Json.optional? (Json.list? Json.text?))
      fun usedStats species => { species with usedStats },
    .of "colorRegions" (Json.list? (Json.optional? Json.text?))
      fun colorRegions species => { species with colorRegions }]

def ofJson? (document : Json) : Option Species := document.record? fields {}

def toJson (species : Species) : Json :=
  .record
    [("name", .ofText species.name),
      ("statNames", .record (species.statNames.map fun (code, name) => (code, .ofText name))),
      ("usedStats", .ofOption (fun codes => .array (codes.map .ofText)) species.usedStats),
      ("colorRegions", .array (species.colorRegions.map (.ofOption .ofText)))]

end Species

namespace ColorTable

/-- A color's number, written as a number between quotes. -/
def key? (quoted : Json.Quoted) : Option UInt8 :=
  match Json.numeral? quoted.written.toList with
  | some (numeral, []) => Json.uint8? (.number numeral)
  | _ => none

def ofJson? : Json → Option (Table UInt8 String)
  | .object members =>
      members.foldlM
        (fun table (key, document) => do return Table.put (← key? key) (← document.text?) table)
        []
  | _ => none

def toJson (colors : Table UInt8 String) : Json :=
  .record (colors.map fun (color, name) =>
    (.ofList (Number.decimalDigits color.toNat), .ofText name))

end ColorTable

namespace Collection

open Json (RecordField)

def fields : List (RecordField Collection) :=
  [.of "creatures" (Json.list? Creature.ofJson?)
      fun creatures collection => { collection with creatures },
    .of "species" (Json.list? Species.ofJson?)
      fun species collection => { collection with species },
    .of "colors" ColorTable.ofJson? fun colors collection => { collection with colors }]

def ofJson? (document : Json) : Option Collection := document.record? fields {}

/-- The document of a collection; `number` writes the numbers that have fractions. -/
def toJson (number : Binary64 → Json) (collection : Collection) : Json :=
  .record
    [("creatures", .array (collection.creatures.map (Creature.toJson number))),
      ("species", .array (collection.species.map Species.toJson)),
      ("colors", ColorTable.toJson collection.colors)]

/-- Read a collection from the text of its document. -/
def read? (text : String) : Option Collection := (Json.parse? text).bind ofJson?

/-- The text of a collection's document. -/
def text (collection : Collection) : String := (collection.toJson Json.ofBinary64).pretty

end Collection

/-- Read a table of replacements from the text of its document. -/
def Replacements.read? (text : String) : Option Replacements :=
  (Json.parse? text).bind (Json.table? Json.text?)

end CreatureNaming
