import CreatureNaming.Workspace
import CreatureNaming.Proofs.Naming.BySpecies

/-! The first creature of a species, named by itself and in a batch.

When its turn comes in a batch, no creature of its species has a new name yet. So it is named among
the creatures, and with the levels, that it is named with by itself. Only the definition of its
species can differ: of several definitions the first one counts by itself, and the last one in a
batch.
-/

set_option autoImplicit false

namespace CreatureNaming

namespace Batch

variable {batch : Batch} {before after : List Creature} {creature : Creature}

/-- The first result for a species stands where its first creature does. -/
theorem renameAll_first (others : ∀ earlier ∈ before, earlier.species ≠ creature.species) :
    (batch.renameAll (before ++ creature :: after))[before.length]? =
      (batch.renameGroup (ofSpecies creature.species (before ++ creature :: after))).head? := by
  obtain ⟨length, dealt⟩ := batch.renameAll_ofSpecies (before ++ creature :: after)
  have group := dealt creature.species
  generalize batch.renameAll (before ++ creature :: after) = renames at length group
  obtain ⟨earlier, later, rfl, sameLength⟩ : ∃ earlier later,
      renames = earlier ++ later ∧ earlier.length = before.length :=
    ⟨_, _, (List.take_append_drop before.length renames).symm, by simp [length]⟩
  have nonempty : later ≠ [] := by
    rintro rfl
    simp [sameLength] at length
  obtain ⟨rename, later, rfl⟩ := List.exists_cons_of_ne_nil nonempty
  -- No creature before this one has a result among those of its species.
  have none : ((earlier.zip before).filter fun entry => entry.2.species == creature.species) =
      [] := by
    refine List.filter_eq_nil_iff.mpr fun entry member => ?_
    simpa using others _ (List.of_mem_zip member).2
  rw [List.zip_append sameLength, List.filter_append, none] at group
  have projected := congrArg (fun entries => (entries.map Prod.fst).head?) group
  rw [List.map_fst_zip (Nat.le_of_eq (renameGroup_length _ _))] at projected
  rw [← projected, ← sameLength]
  simp

theorem renameGroup_head (batch : Batch) (creature : Creature) (rest : List Creature) :
    (batch.renameGroup (creature :: rest)).head? =
      some ⟨creature.id, creature.name,
        (batch.context (.compute (creature :: rest)) creature (creature :: rest)).generate
          batch.nodes⟩ :=
  rfl

end Batch

namespace Workspace

variable {workspace : Workspace} {nodes : List Pattern.Node} {before after : List Creature}
  {creature : Creature}

/-- The name of a single creature, the first one with a number, if there is one. -/
def outcome? (workspace : Workspace) (mode : Mode) (nodes : List Pattern.Node) (id : CreatureId) :
    Option Outcome :=
  (workspace.collection.find? id).map fun creature =>
    (workspace.context mode creature).generate nodes

/-- The last definition of a species comes first. -/
def lastDefinitionsFirst (workspace : Workspace) : Workspace :=
  { workspace with
    collection := { workspace.collection with species := workspace.collection.species.reverse } }

theorem batch_context (workspace : Workspace) (nodes : List Pattern.Node) (creature : Creature) :
    (workspace.batch nodes).context (.compute (workspace.collection.siblings creature.species))
        creature (workspace.collection.siblings creature.species) =
      workspace.lastDefinitionsFirst.context .commit creature :=
  rfl

theorem outcome?_first (workspace : Workspace) (mode : Mode) (nodes : List Pattern.Node)
    (placed : workspace.collection.creatures = before ++ creature :: after)
    (others : ∀ earlier ∈ before, earlier.id ≠ creature.id) :
    workspace.outcome? mode nodes creature.id =
      some ((workspace.context mode creature).generate nodes) := by
  have none : before.find? (fun earlier => earlier.id == creature.id) = none :=
    List.find?_eq_none.mpr fun earlier member => by simpa using others earlier member
  simp [outcome?, Collection.find?, placed, none]

theorem siblings_first (placed : workspace.collection.creatures = before ++ creature :: after)
    (others : ∀ earlier ∈ before, earlier.species ≠ creature.species) :
    workspace.collection.siblings creature.species =
      creature :: ofSpecies creature.species after := by
  have none : ofSpecies creature.species before = [] :=
    List.filter_eq_nil_iff.mpr fun earlier member => by simpa using others earlier member
  calc workspace.collection.siblings creature.species
    _ = ofSpecies creature.species (before ++ creature :: after) := by rw [← placed]; rfl
    _ = creature :: ofSpecies creature.species after := by
      rw [Batch.ofSpecies_append, none, Batch.ofSpecies_cons]
      simp

/-- In a batch, the first creature of a species is named with the last definition of it. -/
theorem renameGroup_first (workspace : Workspace) (nodes : List Pattern.Node)
    (placed : workspace.collection.creatures = before ++ creature :: after)
    (others : ∀ earlier ∈ before, earlier.species ≠ creature.species) :
    ((workspace.batch nodes).renameGroup (workspace.collection.siblings creature.species)).head? =
      some ⟨creature.id, creature.name,
        (workspace.lastDefinitionsFirst.context .commit creature).generate nodes⟩ := by
  rw [← batch_context workspace nodes, siblings_first placed others]
  exact Batch.renameGroup_head (workspace.batch nodes) creature _

theorem generate_redrawn (random : CreatureId → Nat → String) (mode : Mode) (creature : Creature)
    (fixed : Pattern.mentions "rnd" nodes = false) :
    (Workspace.context { workspace with random } mode creature).generate nodes =
      (workspace.context mode creature).generate nodes :=
  Context.generate_redrawn (workspace.context mode creature) (random creature.id) fixed

/-- The first creature of a species gets from a batch, be it of its species alone, what it gets by
itself once the last definition of its species comes first; and so what it gets by itself if the
same definition counts for both. -/
theorem renames_first (workspace : Workspace) (nodes : List Pattern.Node)
    (random : CreatureId → Nat → String) (before after : List Creature) (creature : Creature)
    (fixed : Pattern.mentions "rnd" nodes = false)
    (placed : workspace.collection.creatures = before ++ creature :: after)
    (leads : ∀ earlier ∈ before, earlier.species ≠ creature.species ∧ earlier.id ≠ creature.id) :
    let alone : Workspace := { workspace with random }
    ∃ outcome,
      (workspace.renames nodes)[before.length]? = some ⟨creature.id, creature.name, outcome⟩ ∧
      (workspace.renames nodes (some creature.species)).head? =
        some ⟨creature.id, creature.name, outcome⟩ ∧
      alone.lastDefinitionsFirst.outcome? .commit nodes creature.id = some outcome ∧
      ((workspace.batch nodes).definition? creature.species =
          workspace.collection.species? creature.species →
        alone.outcome? .commit nodes creature.id = some outcome) := by
  intro alone
  have others := fun earlier member => (leads earlier member).1
  have ids := fun earlier member => (leads earlier member).2
  have first := renameGroup_first workspace nodes placed others
  refine ⟨(workspace.lastDefinitionsFirst.context .commit creature).generate nodes, ?_, ?_, ?_, ?_⟩
  · rw [← first, renames, placed, Batch.renameAll_first others, ← placed]
    rfl
  · rw [← first, renames]
    exact congrArg List.head? (Batch.renameAll_singleSpecies Batch.species_of_ofSpecies)
  · rw [alone.lastDefinitionsFirst.outcome?_first .commit nodes placed ids]
    exact congrArg some (workspace.lastDefinitionsFirst.generate_redrawn random .commit creature
      fixed)
  · intro same
    have context : workspace.lastDefinitionsFirst.context .commit creature =
        workspace.context .commit creature := by
      unfold Workspace.context
      congr 1
    rw [alone.outcome?_first .commit nodes placed ids, context]
    exact congrArg some (workspace.generate_redrawn random .commit creature fixed)

/-- The first of two creatures, behind one of another species. -/
theorem renames_first_between :
    let first : Creature := { id := 2, species := "Rex", wildLevels := [30] }
    let others : List Creature := [{ id := 1, species := "Raptor" }]
    let workspace : Workspace :=
      { collection :=
          { creatures := others ++ first :: [{ id := 3, species := "Rex" }]
            species := [{ name := "Rex", usedStats := some ["hp"] }] }
        now := ⟨⟨0, 0⟩, 0⟩
        random := fun _ _ => "000000" }
    let alone : Workspace := { workspace with random := fun _ _ => "111111" }
    let nodes : List Pattern.Node := [.token ⟨0, 4⟩ "hp", .token ⟨4, 7⟩ "n"]
    Pattern.mentions "rnd" nodes = false ∧
      (∀ earlier ∈ others, earlier.species ≠ first.species ∧ earlier.id ≠ first.id) ∧
      (workspace.batch nodes).definition? "Rex" = workspace.collection.species? "Rex" ∧
      ∃ outcome,
        (workspace.renames nodes)[1]? = some ⟨2, "", outcome⟩ ∧
        (workspace.renames nodes (some "Rex")).head? = some ⟨2, "", outcome⟩ ∧
        alone.outcome? .commit nodes 2 = some outcome := by
  intro first others workspace alone nodes
  have fixed : Pattern.mentions "rnd" nodes = false := by decide
  have leads : ∀ earlier ∈ others, earlier.species ≠ first.species ∧ earlier.id ≠ first.id := by
    decide
  have same : (workspace.batch nodes).definition? "Rex" = workspace.collection.species? "Rex" := by
    decide
  obtain ⟨outcome, inBatch, inOwnBatch, -, byItself⟩ :=
    renames_first workspace nodes (fun _ _ => "111111") others _ first fixed rfl leads
  exact ⟨fixed, leads, same, outcome, inBatch, inOwnBatch, byItself same⟩

/-- With two definitions of a species, its first creature gets one name by itself and another one
from a batch. -/
theorem renames_first_redefined :
    let workspace : Workspace :=
      { collection :=
          { creatures := [{ id := 1, species := "Rex", wildLevels := [30] }]
            species := [{ name := "Rex", usedStats := some ["hp"] },
              { name := "Rex", usedStats := some [] }] }
        now := ⟨⟨0, 0⟩, 0⟩
        random := fun _ _ => "000000" }
    let nodes : List Pattern.Node := [.literal ⟨0, 3⟩ "Rex", .token ⟨3, 7⟩ "hp"]
    Pattern.mentions "rnd" nodes = false ∧
      (workspace.outcome? .commit nodes 1).map Outcome.name = some "Rex30" ∧
      (workspace.renames nodes).map (fun rename => rename.outcome.name) = ["Rex"] ∧
      (workspace.renames nodes (some "Rex")).map (fun rename => rename.outcome.name) = ["Rex"] := by
  decide +kernel

end Workspace

end CreatureNaming
