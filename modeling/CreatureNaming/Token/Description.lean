import CreatureNaming.Species
import CreatureNaming.Token.Key

/-! What tokens stand for, in words. -/

set_option autoImplicit false

namespace CreatureNaming.Token

def ordinal (rank : Fin 6) : String :=
  match rank with
  | 0 => "first"
  | 1 => "second"
  | 2 => "third"
  | 3 => "fourth"
  | 4 => "fifth"
  | 5 => "sixth"

/-- What a token stands for; stats have the names that `statName` gives them. -/
def describe (statName : Stat → String) : Token → String
  | species => "species name"
  | speciesNoVowels => "species name without vowels"
  | firstWordOfOldest => "first word of the name of the first added creature of the species"
  | owner => "name of the owner of the creature"
  | tribe => "name of the tribe the creature belongs to"
  | server => "name of the server the creature is assigned to"
  | sex => "sex (\"Male\", \"Female\", \"Unknown\")"
  | sexShort => "\"M\", \"F\", \"U\""
  | uniqueNumber =>
      "smallest integer >= 1 that makes the name unique; " ++
        "use \x7b\x7b#ifexpr: \x7bn\x7d > 1 | _\x7bn\x7d \x7d\x7d to only show it when needed"
  | level stat => "level of " ++ statName stat
  | breedingValue stat => "breeding value of " ++ statName stat
  | isTop stat =>
      "1 if the " ++ statName stat ++ " level is the top level of the species, empty otherwise"
  | isNewTop stat =>
      "1 if the " ++ statName stat ++
        " level is higher than the current top of the species, empty otherwise"
  | isLowest stat =>
      "1 if the " ++ statName stat ++ " level is the lowest level of the species, empty otherwise"
  | isNewLowest stat =>
      "1 if the " ++ statName stat ++
        " level is lower than the current lowest of the species, empty otherwise"
  | domestication => "\"T\" for tamed, \"B\" for bred, \"W\" for wild"
  | effectiveness => "taming effectiveness or imprinting bonus"
  | effectivenessShort => "taming effectiveness or imprinting bonus without decimals"
  | index => "index in the collection among the same species"
  | oldName => "current name of the creature"
  | sexLang => "sex (\"Male\", \"Female\", \"Unknown\")"
  | sexLangShort => "sex, short form"
  | sexLangGenitive => "sex, genitive form"
  | sexLangShortGenitive => "sex, short genitive form"
  | topPercent =>
      "percentage of the considered stat levels compared to the top levels of the species"
  | baseLevel => "level right after taming or hatching"
  | mutations => "mutations, capped at 99"
  | generation => "generation"
  | generationLetters => "generation in letters (0=A, 1=B, 26=AA)"
  | generationCount => "number of creatures of the species in the same generation plus one"
  | numberInGeneration => "number of the creature in its generation, ordered by time added"
  | numberInGenerationSex =>
      "number of the creature in its generation with the same sex, ordered by time added"
  | random => "6-digit random number in the range 0 to 999999"
  | totalCount => "number of creatures of the species plus one"
  | sexCount => "number of creatures of the species with the same sex plus one"
  | arkId => "the in-game ARK id"
  | alreadyExists => "1 if the creature is already in the collection"
  | highestLevel rank =>
      ordinal rank ++ " highest stat level of the creature (excluding torpidity)"
  | highestStat rank =>
      "stat name of the " ++ ordinal rank ++ " highest stat level (excluding torpidity)"

/-- What a token stands for, naming the stats as a species does. -/
def describeFor (species : Option Species) (token : Token) : String :=
  match species with
  | some species => token.describe species.statName
  | none => token.describe Stat.name

end CreatureNaming.Token
