import CreatureNaming.Proofs.Naming.OneByOne

/-! The results of a batch, species by species.

Whatever the pattern shows, a batch gives the creatures of one species what they get when they are
named among themselves. So what holds of a single species holds of every species of a collection.
-/

set_option autoImplicit false

namespace CreatureNaming.Batch

variable {batch : Batch}

theorem renameFrom_length (levels : SpeciesLevels) (done rest : List Creature) :
    (batch.renameFrom levels done rest).length = rest.length := by
  induction rest generalizing done with
  | nil => rfl
  | cons creature rest ih => rw [renameFrom, List.length_cons, ih, List.length_cons]

theorem renameGroup_length (batch : Batch) (creatures : List Creature) :
    (batch.renameGroup creatures).length = creatures.length :=
  renameFrom_length _ [] creatures

/-- A result bears the number of its creature and the name that the creature had. -/
theorem renameFrom_labels (levels : SpeciesLevels) (done rest : List Creature) :
    ∀ entry ∈ (batch.renameFrom levels done rest).zip rest,
      entry.1.id = entry.2.id ∧ entry.1.oldName = entry.2.name := by
  induction rest generalizing done with
  | nil => simp
  | cons creature rest ih =>
    rw [renameFrom, List.zip_cons_cons, List.forall_mem_cons]
    exact ⟨⟨rfl, rfl⟩, ih _⟩

/-- The results for a species are those of naming its creatures among themselves. -/
theorem renameAll_ofSpecies (batch : Batch) (creatures : List Creature) :
    (batch.renameAll creatures).length = creatures.length ∧
      ∀ species, (((batch.renameAll creatures).zip creatures).filter
          fun entry => entry.2.species == species) =
        (batch.renameGroup (ofSpecies species creatures)).zip (ofSpecies species creatures) := by
  let group (species : String) : List (Creature × Nat) :=
    creatures.zipIdx.filter fun entry => entry.1.species == species
  have members (species : String) : (group species).map Prod.fst = ofSpecies species creatures := by
    conv_rhs => rw [ofSpecies, ← List.zipIdx_map_fst 0 creatures, List.filter_map]
    rfl
  obtain ⟨results, length, dealt⟩ := exists_dealt (fun entry => entry.1.species) creatures.zipIdx
    (fun species => batch.renameGroup ((group species).map Prod.fst))
    (fun species => by rw [renameGroup_length, List.length_map])
  rw [List.length_zipIdx] at length
  have all : batch.renameAll creatures = results := by
    have renamed := dealt_perm Creature.species length fun species => by
      rw [dealt species, List.zip_map_right]
      rfl
    rw [renameAll, renameGroups, groups, List.flatMap_map, mergeSort_positions renamed,
      List.zipIdx_map_fst]
  have entries : results.zip creatures =
      (results.zip creatures.zipIdx).map fun entry => (entry.1, entry.2.1) := by
    conv_lhs => rw [← List.zipIdx_map_fst 0 creatures, List.zip_map_right]
    rfl
  refine ⟨by rw [all, length], fun species => ?_⟩
  rw [all, entries, List.filter_map, ← members species, List.zip_map_right]
  exact congrArg _ (dealt species)

theorem renameAll_length (batch : Batch) (creatures : List Creature) :
    (batch.renameAll creatures).length = creatures.length :=
  (batch.renameAll_ofSpecies creatures).1

/-- A result belongs to the results of its creature's species. -/
theorem mem_renameGroup_of_mem {creatures : List Creature} {entry : Rename × Creature}
    (member : entry ∈ (batch.renameAll creatures).zip creatures) :
    entry ∈ (batch.renameGroup (ofSpecies entry.2.species creatures)).zip
      (ofSpecies entry.2.species creatures) := by
  rw [← (batch.renameAll_ofSpecies creatures).2]
  exact List.mem_filter.mpr ⟨member, beq_self_eq_true _⟩

theorem renameAll_labels (batch : Batch) (creatures : List Creature) :
    ∀ entry ∈ (batch.renameAll creatures).zip creatures,
      entry.1.id = entry.2.id ∧ entry.1.oldName = entry.2.name := by
  intro entry member
  exact renameFrom_labels _ [] _ entry (mem_renameGroup_of_mem member)

/-- Each creature has a result of its own. -/
theorem exists_rename (batch : Batch) {creatures : List Creature} {creature : Creature}
    (member : creature ∈ creatures) :
    ∃ rename ∈ batch.renameAll creatures,
      rename.id = creature.id ∧ rename.oldName = creature.name := by
  rw [← List.map_snd_zip (Nat.le_of_eq (renameAll_length batch creatures).symm)] at member
  obtain ⟨entry, paired, rfl⟩ := List.mem_map.mp member
  exact ⟨entry.1, (List.of_mem_zip paired).1, renameAll_labels batch creatures entry paired⟩

theorem renameAll_ids (batch : Batch) (creatures : List Creature) :
    (batch.renameAll creatures).map Rename.id = creatures.map Creature.id := by
  have length := renameAll_length batch creatures
  calc
    (batch.renameAll creatures).map Rename.id
    _ = ((batch.renameAll creatures).zip creatures).map fun entry => entry.1.id := by
      conv_lhs => rw [← List.map_fst_zip (Nat.le_of_eq length), List.map_map]
      rfl
    _ = ((batch.renameAll creatures).zip creatures).map fun entry => entry.2.id :=
      List.map_congr_left fun entry member => (renameAll_labels batch creatures entry member).1
    _ = creatures.map Creature.id := by
      conv_rhs => rw [← List.map_snd_zip (Nat.le_of_eq length.symm), List.map_map]
      rfl

theorem species_of_ofSpecies {species : String} {creatures : List Creature} :
    ∀ creature ∈ ofSpecies species creatures, creature.species = species := by
  intro creature member
  exact eq_of_beq (List.mem_filter.mp member).2

/-- A collection of one species is a single group. -/
theorem renameAll_singleSpecies {species : String} {creatures : List Creature}
    (same : ∀ creature ∈ creatures, creature.species = species) :
    batch.renameAll creatures = batch.renameGroup creatures := by
  have members : ofSpecies species creatures = creatures :=
    List.filter_eq_self.mpr fun creature member => beq_iff_eq.mpr (same creature member)
  have results := (batch.renameAll_ofSpecies creatures).2 species
  have all : (((batch.renameAll creatures).zip creatures).filter
      fun entry => entry.2.species == species) = (batch.renameAll creatures).zip creatures :=
    List.filter_eq_self.mpr fun entry member =>
      beq_iff_eq.mpr (same entry.2 (List.of_mem_zip member).2)
  rw [all, members] at results
  calc batch.renameAll creatures
    _ = ((batch.renameAll creatures).zip creatures).map Prod.fst :=
      (List.map_fst_zip (Nat.le_of_eq (renameAll_length batch creatures))).symm
    _ = ((batch.renameGroup creatures).zip creatures).map Prod.fst := by rw [results]
    _ = batch.renameGroup creatures :=
      List.map_fst_zip (Nat.le_of_eq (renameGroup_length batch creatures))

end CreatureNaming.Batch
