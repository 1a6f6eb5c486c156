import CreatureNaming.Proofs.Collections
import CreatureNaming.Proofs.Naming.Numbering
import CreatureNaming.Pattern.Tree
import Mathlib.Data.List.Forall2

/-! Collections that are written back with new names.

A batch names all creatures of a collection, or those of one species. The names are written by id,
and the collection is saved and loaded again. Where all ids are different, each creature that was
selected then has the name of its own result, and nothing else has changed.
-/

set_option autoImplicit false

namespace CreatureNaming

/-- Whether a batch for one species, or for all, names a creature. -/
def Creature.isSelected (species : Option String) (creature : Creature) : Bool :=
  species.all fun species => creature.species == species

theorem Collection.isExact_applyRenames {collection : Collection} (renames : List Rename)
    (exact : ∀ creature ∈ collection.creatures, creature.IsExact) :
    ∀ creature ∈ (collection.applyRenames renames).creatures, creature.IsExact := by
  intro after member
  rw [applyRenames, applyNames] at member
  obtain ⟨before, inside, rfl⟩ := List.mem_map.mp member
  split
  · next name _ => exact (exact before inside).rename name
  · exact exact before inside

namespace Workspace

variable {workspace : Workspace} {nodes : List Pattern.Node} {species : Option String}

/-- What becomes of a creature: a result that bears its id gives it a new name, and a creature
that was not selected stays as it is. -/
inductive WrittenBack (species : Option String) (renames : List Rename) : Creature → Creature → Prop
  | named (creature : Creature) (rename : Rename) (selected : creature.isSelected species = true)
      (result : rename ∈ renames) (own : rename.id = creature.id)
      (before : rename.oldName = creature.name) :
      WrittenBack species renames creature { creature with name := rename.outcome.name }
  | kept (creature : Creature) (unselected : creature.isSelected species = false) :
      WrittenBack species renames creature creature

theorem renames_eq (workspace : Workspace) (nodes : List Pattern.Node) (species : Option String) :
    workspace.renames nodes species =
      (workspace.batch nodes).renameAll
        (workspace.collection.creatures.filter (Creature.isSelected species)) := by
  cases species with
  | none =>
    have all : workspace.collection.creatures.filter (Creature.isSelected none) =
        workspace.collection.creatures := List.filter_eq_self.mpr fun _ _ => rfl
    rw [all, renames]
  | some species => rfl

/-- A creature whose id no result bears keeps its name. -/
theorem get?_noName {renames : List Rename} {id : CreatureId} (absent : id ∉ renames.map Rename.id) :
    Table.get? id (Table.putAll (renames.map fun rename => (rename.id, rename.outcome.name)) []) =
      none := by
  apply Table.get?_putAll_other
  rwa [List.map_map]

/-- No result bears the id of a creature that was not selected. -/
theorem absent_of_unselected (distinct : (workspace.collection.creatures.map Creature.id).Nodup)
    {creature : Creature} (member : creature ∈ workspace.collection.creatures)
    (unselected : creature.isSelected species = false) :
    creature.id ∉ (workspace.renames nodes species).map Rename.id := by
  rw [renames_eq, Batch.renameAll_ids]
  intro bearer
  obtain ⟨other, among, same⟩ := List.mem_map.mp bearer
  obtain ⟨inside, selected⟩ := List.mem_filter.mp among
  obtain rfl := List.inj_on_of_nodup_map distinct inside member same
  rw [unselected] at selected
  cases selected

theorem applyRenames_writtenBack
    (distinct : (workspace.collection.creatures.map Creature.id).Nodup) :
    List.Forall₂ (WrittenBack species (workspace.renames nodes species))
      workspace.collection.creatures
      (workspace.collection.applyRenames (workspace.renames nodes species)).creatures := by
  have distinctIds : ((workspace.renames nodes species).map Rename.id).Nodup := by
    rw [renames_eq, Batch.renameAll_ids]
    exact distinct.sublist (List.filter_sublist.map _)
  rw [Collection.applyRenames, Collection.applyNames, List.forall₂_map_right_iff, List.forall₂_same]
  intro creature member
  cases choice : creature.isSelected species with
  | true =>
    have among : creature ∈ workspace.collection.creatures.filter (Creature.isSelected species) :=
      List.mem_filter.mpr ⟨member, choice⟩
    obtain ⟨rename, result, own, before⟩ := (workspace.batch nodes).exists_rename among
    rw [← renames_eq] at result
    -- No other result has this id, so it is this name that is written.
    have found := Batch.get?_newNames distinctIds result
    rw [own] at found
    simp only [found]
    exact .named creature rename choice result own before
  | false =>
    simp only [get?_noName (absent_of_unselected distinct member choice)]
    exact .kept creature choice

/-- A collection that is saved with the names of a batch and loaded again differs from the one
that was loaded first in the names of the creatures selected, each of which has the name of its
own result. -/
theorem renames_writeBack (workspace : Workspace) (pattern text : String) (species : Option String)
    (loaded : Collection.read? text = some workspace.collection)
    (distinct : (workspace.collection.creatures.map Creature.id).Nodup)
    (exact : ∀ creature ∈ workspace.collection.creatures, creature.IsExact) :
    let collection := workspace.collection
    let renames := workspace.renames (Pattern.parse pattern) species
    renames.map Rename.id =
        (collection.creatures.filter (Creature.isSelected species)).map Creature.id ∧
      ∃ again, Collection.read? (collection.applyRenames renames).text = some again ∧
        again.species = collection.species ∧
        again.colors = collection.colors ∧
        List.Forall₂ (WrittenBack species renames) collection.creatures again.creatures := by
  intro collection renames
  have written : List.Forall₂ (WrittenBack species renames) collection.creatures
      (collection.applyRenames renames).creatures := applyRenames_writtenBack distinct
  have keyed : collection.IsKeyed := Collection.isKeyed_of_read? loaded
  refine ⟨?_, collection.applyRenames renames, ?_, rfl, rfl, written⟩
  · rw [show renames = _ from workspace.renames_eq _ species]
    exact Batch.renameAll_ids _ _
  · exact Collection.read?_text ⟨keyed.statNames, keyed.colors⟩
      (Collection.isExact_applyRenames renames exact)

/-- The only creature of a species is named, with a number that has a fraction and a time. -/
theorem renames_writeBack_oneSpecies :
    let half : Binary64 := .finite false ⟨0x10000000000000, -53, by decide⟩
    let rex : Creature :=
      { id := 1, species := "Rex", breedingValues := [half], added := some ⟨0, 0⟩ }
    let other : Creature := { id := 2, name := "Kept" }
    let workspace : Workspace :=
      { collection := { creatures := [rex, other], colors := [(1, "Crimson")] }
        now := ⟨⟨0, 0⟩, 0⟩
        random := fun _ _ => "000000" }
    let text :=
      "\x7b\"creatures\":[\x7b\"id\":1,\"species\":\"Rex\",\"valuesBreeding\":[0.5]," ++
        "\"addedToLibrary\":\"1970-01-01T00:00:00Z\"\x7d,\x7b\"id\":2,\"name\":\"Kept\"\x7d]," ++
        "\"colors\":\x7b\"1\":\"Crimson\"\x7d\x7d"
    let collection := workspace.collection
    let renames := workspace.renames (Pattern.parse "\x7bspecies\x7d \x7bn\x7d") (some "Rex")
    Collection.read? text = some collection ∧
      (collection.creatures.map Creature.id).Nodup ∧
      (∀ creature ∈ collection.creatures, creature.IsExact) ∧
      renames.map Rename.id = [1] ∧
      ∃ again, Collection.read? (collection.applyRenames renames).text = some again ∧
        again.species = collection.species ∧
        again.colors = collection.colors ∧
        List.Forall₂ (WrittenBack (some "Rex") renames) collection.creatures again.creatures := by
  intro half rex other workspace text collection renames
  have loaded : Collection.read? text = some collection := by decide +kernel
  have distinct : (collection.creatures.map Creature.id).Nodup := by decide
  have absent {Value : Type} (holds : Value → Prop) : ∀ value ∈ none, holds value := nofun
  have readHalf : Json.binary64? (.ofBinary64 half) = some half := by decide +kernel
  have readAdded : Time.Instant.read? (Time.Instant.text ⟨0, 0⟩) = some ⟨0, 0⟩ := by
    decide +kernel
  have exact : ∀ creature ∈ collection.creatures, creature.IsExact := by
    rw [List.forall_mem_cons, List.forall_mem_singleton]
    constructor
    · refine ⟨List.forall_mem_singleton.mpr readHalf, absent _, absent _, ?_⟩
      rintro added ⟨⟩
      exact readAdded
    · exact ⟨List.forall_mem_nil _, absent _, absent _, absent _⟩
  exact ⟨loaded, distinct, exact,
    renames_writeBack workspace _ _ (some "Rex") loaded distinct exact⟩

end Workspace

end CreatureNaming
