import CreatureNaming.Workspace
import CreatureNaming.Proofs.Naming.BySpecies

/-! Species do not influence each other in a batch.

The creatures of one species get from a batch of a whole collection what they get from a batch of
their own. Two batches draw different random digits, so this is stated of patterns that show none.
-/

set_option autoImplicit false

namespace CreatureNaming

namespace Batch

variable {batch : Batch}

/-- The same batch with other random digits. -/
def redrawn (batch : Batch) (random : CreatureId → Nat → String) : Batch := { batch with random }

/-- The results at the positions of a species. -/
def resultsFor (species : String) (creatures : List Creature) (renames : List Rename) :
    List Rename :=
  ((renames.zip creatures).filter fun entry => entry.2.species == species).map Prod.fst

theorem renameFrom_redrawn (random : CreatureId → Nat → String)
    (fixed : Pattern.mentions "rnd" batch.nodes = false) (levels : SpeciesLevels)
    (done rest : List Creature) :
    (batch.redrawn random).renameFrom levels done rest = batch.renameFrom levels done rest := by
  induction rest generalizing done with
  | nil => rfl
  | cons creature rest ih =>
    have same : ((batch.redrawn random).context levels creature (done ++ creature :: rest)).generate
          batch.nodes =
        (batch.context levels creature (done ++ creature :: rest)).generate batch.nodes :=
      Context.generate_redrawn (batch.context levels creature _) (random creature.id) fixed
    rw [renameFrom, renameFrom, ih]
    simp only [← same]
    rfl

theorem renameGroup_redrawn (random : CreatureId → Nat → String)
    (fixed : Pattern.mentions "rnd" batch.nodes = false) (creatures : List Creature) :
    (batch.redrawn random).renameGroup creatures = batch.renameGroup creatures :=
  renameFrom_redrawn random fixed _ [] creatures

theorem resultsFor_renameAll (batch : Batch) (creatures : List Creature) (species : String) :
    resultsFor species creatures (batch.renameAll creatures) =
      batch.renameGroup (ofSpecies species creatures) := by
  rw [resultsFor, (batch.renameAll_ofSpecies creatures).2 species]
  apply List.map_fst_zip
  exact Nat.le_of_eq (renameGroup_length _ _)

theorem resultsFor_redrawn (batch : Batch) (random : CreatureId → Nat → String)
    (fixed : Pattern.mentions "rnd" batch.nodes = false) (creatures : List Creature)
    (species : String) :
    resultsFor species creatures (batch.renameAll creatures) =
      (batch.redrawn random).renameAll (ofSpecies species creatures) := by
  rw [resultsFor_renameAll, renameAll_singleSpecies species_of_ofSpecies,
    renameGroup_redrawn random fixed]

/-- The results of a batch at the positions of a species are those of a batch of its creatures
alone. So a batch that is asked for one species only gives its creatures what the batch of all
gives them. -/
theorem renameAll_speciesApart (batch : Batch) (creatures : List Creature) (species : String)
    (random : CreatureId → Nat → String) (fixed : Pattern.mentions "rnd" batch.nodes = false) :
    ((batch.renameAll creatures).length = creatures.length ∧
      resultsFor species creatures (batch.renameAll creatures) =
        (batch.redrawn random).renameAll (ofSpecies species creatures)) ∧
    ∀ workspace : Workspace,
      resultsFor species workspace.collection.creatures (workspace.renames batch.nodes) =
        Workspace.renames { workspace with random } batch.nodes (some species) := by
  refine ⟨⟨renameAll_length batch creatures, resultsFor_redrawn batch random fixed creatures species⟩,
    ?_⟩
  intro workspace
  exact resultsFor_redrawn (workspace.batch batch.nodes) random fixed _ species

/-- A species of two creatures around one of another. -/
theorem renameAll_speciesApart_between :
    let batch : Batch :=
      { nodes := [.token ⟨0, 9⟩ "species", .token ⟨9, 12⟩ "n", .token ⟨12, 16⟩ "tn"]
        now := ⟨⟨0, 0⟩, 0⟩
        random := fun _ _ => "000000" }
    let rex : List Creature := [{ id := 1, species := "Rex" }, { id := 3, species := "Rex" }]
    let creatures : List Creature :=
      [{ id := 1, species := "Rex" }, { id := 2, species := "Raptor" }, { id := 3, species := "Rex" }]
    let workspace : Workspace :=
      { collection := { creatures }, now := ⟨⟨0, 0⟩, 0⟩, random := fun _ _ => "000000" }
    let alone : Workspace := { workspace with random := fun _ _ => "111111" }
    Pattern.mentions "rnd" batch.nodes = false ∧ ofSpecies "Rex" creatures = rex ∧
      resultsFor "Rex" creatures (batch.renameAll creatures) =
        (batch.redrawn fun _ _ => "111111").renameAll rex ∧
      resultsFor "Rex" creatures (workspace.renames batch.nodes) =
        alone.renames batch.nodes (some "Rex") := by
  intro batch rex creatures workspace alone
  have fixed : Pattern.mentions "rnd" batch.nodes = false := by decide
  have members : ofSpecies "Rex" creatures = rex := by decide
  have ⟨results, asked⟩ :=
    renameAll_speciesApart batch creatures "Rex" (fun _ _ => "111111") fixed
  exact ⟨fixed, members, members ▸ results.2, asked workspace⟩

end Batch

end CreatureNaming
