import CreatureNaming.Naming.Context
import CreatureNaming.Number.Layout
import CreatureNaming.Text.Blank
import CreatureNaming.Token.Description

/-! The values of tokens. -/

set_option autoImplicit false

namespace CreatureNaming

open Number

/-- The digit one for yes, nothing for no. -/
def mark (yes : Bool) : String := if yes then "1" else ""

/-- The count of the others, and the creature itself. -/
def ordinalText (others : List Creature) : String := integerText (others.length + 1)

/-- A text without the vowels behind its first character. -/
def withoutVowels (text : String) : String :=
  match text.toList with
  | [] => ""
  | first :: rest => .ofList (first :: rest.filter fun c => !"aeiouAEIOU".toList.contains c)

/-- Letters in place of a number: A to Z, then AA to ZZ, and so on; the last letter first. -/
def lettersReversed (number : Nat) : List Char :=
  let letter := Char.ofNat ('A'.toNat + number % 26)
  if number < 26 then [letter] else letter :: lettersReversed (number / 26 - 1)
termination_by number

def lettersText (number : Nat) : String := .ofList (lettersReversed number).reverse

/-- Whether another creature came into the collection before. One that is not in it yet comes
after all that are. -/
def addedBefore (other creature : Creature) : Bool :=
  match other.added, creature.added with
  | some theirs, some ours => theirs.before ours
  | some _, none => true
  | none, _ => false

/-- The first of the creatures that were added earliest. -/
def earliest : List (Time.Instant × Creature) → Option (Time.Instant × Creature)
  | [] => none
  | first :: rest =>
      match earliest rest with
      | none => some first
      | some best => if best.1.before first.1 then some best else some first

namespace Context

/-- The creatures of the species that have a name and were added, the one being named first. -/
def namedAndAdded (context : Context) : List (Time.Instant × Creature) :=
  (context.creature :: context.others).filterMap fun creature =>
    if creature.name.isEmpty then none else creature.added.map fun added => (added, creature)

def firstWordOfOldest (context : Context) : String :=
  match earliest context.namedAndAdded with
  | some (_, oldest) => Text.firstWord oldest.name
  | none => ""

def percent (value : Binary64) : Binary64 := value.mul (.ofNat 100)

def breedingValueText (context : Context) (stat : Stat) : String :=
  if context.usesStat stat then
    match context.creature.breedingValue stat with
    | some value =>
        .ofList (fixedTrimmed (if stat.isPercentage then percent value else value) 2)
    | none => ""
  else ""

/-- Compare the creature's level of a stat with the best level of the others; with no other
level to compare with it is the best itself. -/
def comparesWell (context : Context) (stat : Stat) (others : Option Int)
    (well : Int → Int → Bool) : Bool :=
  match context.level stat with
  | none => false
  | some level =>
      match others with
      | none => true
      | some other => well level other

def isTop (context : Context) (stat : Stat) (well : Int → Int → Bool) : Bool :=
  context.comparesWell stat (context.levels.topExcluding stat context.creature.id) well

def isLowest (context : Context) (stat : Stat) (well : Int → Int → Bool) : Bool :=
  context.comparesWell stat (context.levels.lowestExcluding stat context.creature.id) well

/-- The imprinting bonus of bred creatures and the taming effectiveness of all others. -/
def effectivenessText (creature : Creature) (places : Nat) : String :=
  let (letter, value) :=
    match creature.domestication with
    | .bred => ('I', creature.imprintingBonus)
    | .tamed | .wild => ('E', creature.tamingEffectiveness)
  match value with
  | some value =>
      if Binary64.zero.atMost value then .ofList (letter :: fixedTrimmed (percent value) places)
      else "Z"
  | none => "Z"

/-- The position among the siblings, from one on; a creature that is not among them comes
last. -/
def position (context : Context) : Nat :=
  match context.siblings.findIdx? fun sibling => sibling.id == context.creature.id with
  | some index => index + 1
  | none => context.others.length + 1

/-- The creature's considered levels, each with the top level of the species. -/
def consideredLevels (context : Context) : List (Int × Int) :=
  context.settings.consideredStats.filterMap fun stat =>
    (context.level stat).map fun level =>
      (level, (context.levels.topExcluding stat context.creature.id).elim level (max level))

def topPercentText (context : Context) : String :=
  let levels := context.consideredLevels
  let own := levels.foldr (fun (level, _) rest => level + rest) 0
  let top := levels.foldr (fun (_, level) rest => level + rest) 0
  if top ≤ 0 then ""
  else .ofList (fixedTrimmed (percent ((Binary64.ofInt own).div (.ofInt top))) 1)

/-- Torpidity rises with each level; without it the levels are summed up. Both are sums of 32 bits,
which wrap around. -/
def baseLevel (context : Context) : Int32 :=
  match context.level .torpidity with
  | some torpidity => .ofInt torpidity + 1
  | none => ((Stat.all.filterMap context.level).map Int32.ofInt).foldl (· + ·) 0 + 1

/-- The known levels but for torpidity, highest first, equal ones in the order of the stats. -/
def rankedLevels (context : Context) : List (Stat × Int) :=
  let known := (Stat.all.filter (· != .torpidity)).filterMap fun stat =>
    (context.level stat).map fun level => (stat, level)
  known.mergeSort fun first second => second.2 ≤ first.2

end Context

/-- The value of a token. The number that makes a name unique is shown as its placeholder, and
random digits are those of the first place. -/
def Token.value (context : Context) (token : Token) : String :=
  let creature := context.creature
  let sameGeneration (other : Creature) : Bool := other.generation == creature.generation
  let sameSex (other : Creature) : Bool := other.sex == creature.sex
  let before (other : Creature) : Bool := addedBefore other creature
  match token with
  | .species => creature.species
  | .speciesNoVowels => withoutVowels creature.species
  | .firstWordOfOldest => context.firstWordOfOldest
  | .owner => creature.owner
  | .tribe => creature.tribe
  | .server => creature.server
  | .sex | .sexLang | .sexLangGenitive => creature.sex.name
  | .sexShort | .sexLangShort | .sexLangShortGenitive => creature.sex.short
  | .uniqueNumber => context.settings.placeholder
  | .level stat => (context.level stat).elim "" integerText
  | .breedingValue stat => context.breedingValueText stat
  | .isTop stat => mark (context.isTop stat fun level other => other ≤ level)
  | .isNewTop stat => mark (context.isTop stat fun level other => other < level)
  | .isLowest stat => mark (context.isLowest stat fun level other => level ≤ other)
  | .isNewLowest stat => mark (context.isLowest stat fun level other => level < other)
  | .domestication => creature.domestication.marker
  | .effectiveness => Context.effectivenessText creature 1
  | .effectivenessShort => Context.effectivenessText creature 0
  | .index => integerText context.position
  | .oldName => creature.name
  | .topPercent => context.topPercentText
  | .baseLevel => integerText context.baseLevel.toInt
  | .mutations => integerText (min creature.mutations.toNat 99)
  | .generation => integerText creature.generation.toNat
  | .generationLetters => lettersText creature.generation.toNat
  | .generationCount => ordinalText (context.others.filter sameGeneration)
  | .numberInGeneration =>
      ordinalText (context.others.filter fun other => sameGeneration other && before other)
  | .numberInGenerationSex =>
      ordinalText (context.others.filter fun other =>
        sameGeneration other && sameSex other && before other)
  | .random => context.random 0
  | .totalCount => ordinalText context.others
  | .sexCount => ordinalText (context.others.filter sameSex)
  | .arkId => creature.arkId.elim "" fun id => integerText id.toNat
  | .alreadyExists => mark creature.isAdded
  | .highestLevel rank =>
      (context.rankedLevels[rank.val]?).elim "" fun ranked => integerText ranked.2
  | .highestStat rank =>
      (context.rankedLevels[rank.val]?).elim "" fun ranked => ranked.1.abbreviation

/-- A line of the token dictionary. -/
structure TokenEntry where
  name : String
  value : String
  description : String
  deriving DecidableEq, Repr

/-- All tokens of the catalog with their values and descriptions. -/
def tokenDictionary (context : Context) : List TokenEntry :=
  Token.catalog.map fun token =>
    ⟨token.name, token.value context, token.describeFor context.species⟩

end CreatureNaming
