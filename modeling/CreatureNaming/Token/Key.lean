import CreatureNaming.Stat

/-! Tokens: the names that stand for values of a creature.

A name is found in any ASCII case. Tokens of a stat exist once for each stat, and tokens of a
rank for the first six ranks of a creature's levels.
-/

set_option autoImplicit false

namespace CreatureNaming

inductive Token where
  | species
  | speciesNoVowels
  | firstWordOfOldest
  | owner
  | tribe
  | server
  | sex
  | sexShort
  | uniqueNumber
  | level (stat : Stat)
  | breedingValue (stat : Stat)
  | isTop (stat : Stat)
  | isNewTop (stat : Stat)
  | isLowest (stat : Stat)
  | isNewLowest (stat : Stat)
  | domestication
  | effectiveness
  | effectivenessShort
  | index
  | oldName
  | sexLang
  | sexLangShort
  | sexLangGenitive
  | sexLangShortGenitive
  | topPercent
  | baseLevel
  | mutations
  | generation
  | generationLetters
  | generationCount
  | numberInGeneration
  | numberInGenerationSex
  | random
  | totalCount
  | sexCount
  | arkId
  | alreadyExists
  /-- One of the six highest levels, the highest being number zero. -/
  | highestLevel (rank : Fin 6)
  /-- The stat of one of the six highest levels. -/
  | highestStat (rank : Fin 6)
  deriving DecidableEq, Repr

namespace Token

/-- The tokens without a stat or rank before those of the stats. -/
def leading : List Token :=
  [species, speciesNoVowels, firstWordOfOldest, owner, tribe, server, sex, sexShort, uniqueNumber]

/-- The tokens without a stat or rank after those of the stats. -/
def trailing : List Token :=
  [domestication, effectiveness, effectivenessShort, index, oldName, sexLang, sexLangShort,
    sexLangGenitive, sexLangShortGenitive, topPercent, baseLevel, mutations, generation,
    generationLetters, generationCount, numberInGeneration, numberInGenerationSex, random,
    totalCount, sexCount, arkId, alreadyExists]

def ranks : List (Fin 6) := [0, 1, 2, 3, 4, 5]

/-- All tokens in the order of the catalog. -/
def catalog : List Token :=
  leading ++ Stat.all.map level ++ Stat.all.map breedingValue ++ Stat.all.map isTop ++
    Stat.all.map isNewTop ++ Stat.all.map isLowest ++ Stat.all.map isNewLowest ++ trailing ++
    ranks.map highestLevel ++ ranks.map highestStat

def rankText (rank : Fin 6) : String := .ofList (Nat.toDigits 10 (rank.val + 1))

/-- The usual spelling of a token's name. -/
def name : Token → String
  | species => "species"
  | speciesNoVowels => "spcsNm"
  | firstWordOfOldest => "firstWordOfOldest"
  | owner => "owner"
  | tribe => "tribe"
  | server => "server"
  | sex => "sex"
  | sexShort => "sex_short"
  | uniqueNumber => "n"
  | level stat => stat.code
  | breedingValue stat => stat.code ++ "_vb"
  | isTop stat => "isTop" ++ stat.code
  | isNewTop stat => "isNewTop" ++ stat.code
  | isLowest stat => "isLowest" ++ stat.code
  | isNewLowest stat => "isNewLowest" ++ stat.code
  | domestication => "dom"
  | effectiveness => "effImp"
  | effectivenessShort => "effImp_short"
  | index => "index"
  | oldName => "oldname"
  | sexLang => "sex_lang"
  | sexLangShort => "sex_lang_short"
  | sexLangGenitive => "sex_lang_gen"
  | sexLangShortGenitive => "sex_lang_short_gen"
  | topPercent => "topPercent"
  | baseLevel => "baselvl"
  | mutations => "muta"
  | generation => "gen"
  | generationLetters => "gena"
  | generationCount => "genn"
  | numberInGeneration => "nr_in_gen"
  | numberInGenerationSex => "nr_in_gen_sex"
  | random => "rnd"
  | totalCount => "tn"
  | sexCount => "sn"
  | arkId => "arkid"
  | alreadyExists => "alreadyExists"
  | highestLevel rank => "highest" ++ rankText rank ++ "l"
  | highestStat rank => "highest" ++ rankText rank ++ "s"

/-- The tokens without a stat or rank, by their names in lower case. -/
def fixedNames : List (String × Token) :=
  [("species", species), ("spcsnm", speciesNoVowels), ("firstwordofoldest", firstWordOfOldest),
    ("owner", owner), ("tribe", tribe), ("server", server), ("sex", sex), ("sex_short", sexShort),
    ("n", uniqueNumber), ("dom", domestication), ("effimp", effectiveness),
    ("effimp_short", effectivenessShort), ("index", index), ("oldname", oldName),
    ("sex_lang", sexLang), ("sex_lang_short", sexLangShort), ("sex_lang_gen", sexLangGenitive),
    ("sex_lang_short_gen", sexLangShortGenitive), ("toppercent", topPercent),
    ("baselvl", baseLevel), ("muta", mutations), ("gen", generation), ("gena", generationLetters),
    ("genn", generationCount), ("nr_in_gen", numberInGeneration),
    ("nr_in_gen_sex", numberInGenerationSex), ("rnd", random), ("tn", totalCount),
    ("sn", sexCount), ("arkid", arkId), ("alreadyexists", alreadyExists)]

/-- What follows a text that another one starts with. -/
def stripStart? (start text : List Char) : Option (List Char) :=
  if start.isPrefixOf text then some (text.drop start.length) else none

/-- What precedes a text that another one ends with. -/
def stripEnd? (ending text : List Char) : Option (List Char) :=
  if ending.isSuffixOf text then some (text.take (text.length - ending.length)) else none

/-- The beginnings of the names of tokens that compare levels. -/
def comparisons : List (List Char × (Stat → Token)) :=
  [("isnewtop".toList, isNewTop), ("isnewlowest".toList, isNewLowest), ("istop".toList, isTop),
    ("islowest".toList, isLowest)]

def comparison? (name : List Char) :
    List (List Char × (Stat → Token)) → Option (List Char × (Stat → Token))
  | [] => none
  | (start, make) :: rest =>
      match stripStart? start name with
      | some code => some (code, make)
      | none => comparison? name rest

/-- The rank of a digit from 1 to 6. -/
def rank? (digit : Char) : Option (Fin 6) :=
  match Text.digitValue? digit with
  | some (value + 1) => if h : value < 6 then some ⟨value, h⟩ else none
  | _ => none

/-- The token of a rank: a digit and the letter L or S. -/
def ofRank? : List Char → Option Token
  | [digit, 'l'] => (rank? digit).map highestLevel
  | [digit, 's'] => (rank? digit).map highestStat
  | _ => none

/-- The token of a name in lower case. A beginning or ending that belongs to tokens of a stat
decides: what remains must then be a stat's code. -/
def ofFolded? (name : String) : Option Token :=
  match fixedNames.find? fun entry => entry.1 == name with
  | some (_, token) => some token
  | none =>
      match Stat.ofCode? name with
      | some stat => some (level stat)
      | none =>
          match stripEnd? "_vb".toList name.toList with
          | some code => (Stat.ofCode? (.ofList code)).map breedingValue
          | none =>
              match comparison? name.toList comparisons with
              | some (code, make) => (Stat.ofCode? (.ofList code)).map make
              | none => (stripStart? "highest".toList name.toList).bind ofRank?

/-- The token of a name, in any ASCII case. -/
def ofName? (name : String) : Option Token := ofFolded? (Text.foldCase name)

end Token

end CreatureNaming
