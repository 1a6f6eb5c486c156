import CreatureNaming.Naming.Outcome

/-! Naming all creatures of a collection.

The creatures of each species are named in the order of the collection, and each new name is in
force when the next creature is named. Species do not see each other.
-/

set_option autoImplicit false

namespace CreatureNaming

/-- The name that a creature had, and the one it gets. -/
structure Rename where
  id : CreatureId
  oldName : String
  outcome : Outcome
  deriving DecidableEq, Repr

def Rename.changed (rename : Rename) : Bool := rename.oldName != rename.outcome.name

/-- All that the names of a batch depend on beside the creatures. -/
structure Batch where
  nodes : List Pattern.Node
  settings : Settings := {}
  species : List Species := []
  colors : ColorTable := .dyes
  replacements : Replacements := []
  now : Moment
  /-- Random digits for each creature and each place of the pattern. -/
  random : CreatureId → Nat → String

namespace Batch

/-- The last definition of a species. -/
def definition? (batch : Batch) (name : String) : Option Species :=
  batch.species.reverse.find? fun species => species.name == name

/-- What a creature of a species is named with. -/
def context (batch : Batch) (levels : SpeciesLevels) (creature : Creature)
    (siblings : List Creature) : Context where
  creature
  siblings
  species := batch.definition? creature.species
  colors := batch.colors
  replacements := batch.replacements
  settings := batch.settings
  mode := .commit
  now := batch.now
  random := batch.random creature.id
  levels

/-- Name the creatures of a species that are still to be named; `done` are those before them,
with their new names. -/
def renameFrom (batch : Batch) (levels : SpeciesLevels) (done : List Creature) :
    List Creature → List Rename
  | [] => []
  | creature :: rest =>
      let outcome :=
        (batch.context levels creature (done ++ creature :: rest)).generate batch.nodes
      ⟨creature.id, creature.name, outcome⟩ ::
        renameFrom batch levels (done ++ [{ creature with name := outcome.name }]) rest

/-- Name the creatures of one species. New names change no levels, so these are computed once. -/
def renameGroup (batch : Batch) (creatures : List Creature) : List Rename :=
  batch.renameFrom (.compute creatures) [] creatures

/-- The creatures of each species with their positions, species in the order of their first
creatures. -/
def groups (creatures : List Creature) : List (List (Creature × Nat)) :=
  (creatures.map Creature.species).eraseDups.map fun species =>
    creatures.zipIdx.filter fun (creature, _) => creature.species == species

/-- Name the creatures of some groups, one group after the other, and put the results in the order
of their positions. -/
def renameGroups (batch : Batch) (groups : List (List (Creature × Nat))) : List Rename :=
  let renamed := groups.flatMap fun group =>
    (batch.renameGroup (group.map Prod.fst)).zip (group.map Prod.snd)
  (renamed.mergeSort fun first second => first.2 ≤ second.2).map Prod.fst

/-- Name all creatures; the result has their order. -/
def renameAll (batch : Batch) (creatures : List Creature) : List Rename :=
  batch.renameGroups (groups creatures)

end Batch

end CreatureNaming
