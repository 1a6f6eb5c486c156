import CreatureNaming.Collection
import CreatureNaming.Naming.Batch

/-! A collection with all that is set up for naming its creatures. -/

set_option autoImplicit false

namespace CreatureNaming

structure Workspace where
  collection : Collection := {}
  settings : Settings := {}
  replacements : Replacements := []
  now : Moment
  /-- Random digits for each creature and each place of a pattern. -/
  random : CreatureId → Nat → String

namespace Workspace

/-- What a creature is named with among the creatures of the collection. -/
def context (workspace : Workspace) (mode : Mode) (creature : Creature) : Context where
  creature
  siblings := workspace.collection.siblings creature.species
  species := workspace.collection.species? creature.species
  colors := workspace.collection.colorTable
  replacements := workspace.replacements
  settings := workspace.settings
  mode
  now := workspace.now
  random := workspace.random creature.id

/-- What the creatures of the collection are named with all at once. -/
def batch (workspace : Workspace) (nodes : List Pattern.Node) : Batch where
  nodes
  settings := workspace.settings
  species := workspace.collection.species
  colors := workspace.collection.colorTable
  replacements := workspace.replacements
  now := workspace.now
  random := workspace.random

/-- Name the creatures of the collection, or only those of one species. -/
def renames (workspace : Workspace) (nodes : List Pattern.Node) (species : Option String := none) :
    List Rename :=
  (workspace.batch nodes).renameAll <|
    match species with
    | some species => workspace.collection.siblings species
    | none => workspace.collection.creatures

end Workspace

/-- The collection with new names. -/
def Collection.applyRenames (renames : List Rename) (collection : Collection) : Collection :=
  collection.applyNames (renames.map fun rename => (rename.id, rename.outcome.name))

end CreatureNaming
