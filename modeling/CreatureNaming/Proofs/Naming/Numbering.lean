import CreatureNaming.Proofs.Naming.BySpecies
import CreatureNaming.Proofs.Naming.NumberedPattern
import CreatureNaming.Workspace

/-! Numbering the creatures of a species.

With as many numbers to try as creatures none is left without one, and in the end exactly the
numbers from one to their count are given. When all of them are named again, each finds all
numbers before its own taken and its own one free.
-/

set_option autoImplicit false

namespace CreatureNaming

/-! ## The creatures of a species -/

namespace Batch

variable {batch : Batch} {title : String → Nat → String}

/-- Among creatures no more than the limit, one is given the first free number. -/
theorem generate_firstFree (titles : Context.Titles batch.nodes title) (levels : SpeciesLevels)
    {creature : Creature} {siblings : List Creature} (member : creature ∈ siblings)
    (enough : siblings.length ≤ batch.settings.uniqueLimit.toNat) :
    let context := batch.context levels creature siblings
    ∃ number, context.IsFirstFree (title creature.species) number ∧
      number ≤ siblings.length ∧
      (context.generate batch.nodes).name = title creature.species number ∧
      (context.generate batch.nodes).uniqueNumber = some number ∧
      (context.generate batch.nodes).exhausted = false := by
  intro context
  have fewer : context.others.length < siblings.length :=
    List.length_filter_lt_length_iff_exists.mpr ⟨creature, member, by simp [context, Batch.context]⟩
  have limit : batch.settings.uniqueLimit.toNat ≤ context.searchLimit := Nat.le_max_left _ _
  obtain ⟨number, first, early, given⟩ := Context.generate_titles titles
    (Nat.lt_of_lt_of_le fewer (Nat.le_trans enough limit))
  exact ⟨number, first, by omega, given⟩

/-- The creatures still to be named get different numbers, and none that gives a name in force. -/
theorem renameFrom_numbers (titles : Context.Titles batch.nodes title) (levels : SpeciesLevels)
    (species : String) (done rest : List Creature)
    (same : ∀ creature ∈ rest, creature.species = species)
    (distinct : ((done ++ rest).map Creature.id).Nodup)
    (enough : (done ++ rest).length ≤ batch.settings.uniqueLimit.toNat) :
    let renames := batch.renameFrom levels done rest
    ∃ numbers : List Nat, numbers.Nodup ∧
      (∀ number ∈ numbers, 1 ≤ number ∧ number ≤ (done ++ rest).length ∧
        ∀ settled ∈ done, settled.name ≠ title species number) ∧
      renames.map (fun rename => rename.outcome.uniqueNumber) = numbers.map some ∧
      renames.map (fun rename => rename.outcome.name) = numbers.map (title species) ∧
      ∀ rename ∈ renames, rename.outcome.exhausted = false := by
  induction rest generalizing done with
  | nil => exact ⟨[], by simp [renameFrom]⟩
  | cons creature rest ih =>
    obtain ⟨number, first, early, named, numbered, found⟩ :=
      generate_firstFree titles levels (by simp : creature ∈ done ++ creature :: rest) enough
    rw [same creature List.mem_cons_self] at named first
    have fresh : ∀ settled ∈ done, settled.name ≠ title species number := by
      intro settled before equal
      have different : settled.id ≠ creature.id := by
        simp only [List.map_append, List.map_cons, List.nodup_append] at distinct
        exact distinct.2.2 _ (List.mem_map_of_mem before) _ List.mem_cons_self
      exact first.free
        ⟨titles.ne_empty _ _, settled, List.mem_append_left _ before, different, equal⟩
    -- The others are named with the new name of this creature in force.
    let settled : Creature := { creature with name := title species number }
    obtain ⟨numbers, nodup, bounds, uniqueNumbers, names, allFound⟩ := ih (done ++ [settled])
      (fun other later => same other (List.mem_cons_of_mem _ later))
      (by simpa [settled] using distinct) (by simpa using enough)
    have notAgain : number ∉ numbers := by
      intro again
      exact (bounds number again).2.2 settled (by simp) rfl
    refine ⟨number :: numbers, List.nodup_cons.mpr ⟨notAgain, nodup⟩, ?_, ?_, ?_, ?_⟩
    · rw [List.forall_mem_cons]
      refine ⟨⟨first.positive, early, fresh⟩, fun later among => ?_⟩
      obtain ⟨positive, atMost, unused⟩ := bounds later among
      exact ⟨positive, by simpa using atMost, fun other before => unused other (by simp [before])⟩
    · simp [renameFrom, numbered, named, uniqueNumbers, settled]
    · simp [renameFrom, named, names, settled]
    · simp only [renameFrom, List.forall_mem_cons, named]
      exact ⟨found, allFound⟩

/-- The creatures of a species get the numbers from one to their count. -/
theorem renameGroup_numbers (titles : Context.Titles batch.nodes title) {species : String}
    {creatures : List Creature} (same : ∀ creature ∈ creatures, creature.species = species)
    (distinct : (creatures.map Creature.id).Nodup)
    (enough : creatures.length ≤ batch.settings.uniqueLimit.toNat) :
    let renames := batch.renameGroup creatures
    ∃ numbers : List Nat, numbers.Perm (List.range' 1 creatures.length) ∧
      renames.map (fun rename => rename.outcome.uniqueNumber) = numbers.map some ∧
      renames.map (fun rename => rename.outcome.name) = numbers.map (title species) ∧
      ∀ rename ∈ renames, rename.outcome.exhausted = false := by
  obtain ⟨numbers, nodup, bounds, uniqueNumbers, names, found⟩ :=
    renameFrom_numbers titles (.compute creatures) species [] creatures same distinct enough
  refine ⟨numbers, ?_, uniqueNumbers, names, found⟩
  have among : numbers ⊆ List.range' 1 creatures.length := by
    intro number member
    obtain ⟨positive, atMost, -⟩ := bounds number member
    exact List.mem_range'_1.mpr ⟨positive, by simpa [Nat.lt_succ_iff, Nat.add_comm] using atMost⟩
  have count : numbers.length = creatures.length := by
    have := congrArg List.length names
    rw [List.length_map, List.length_map, renameFrom_length] at this
    exact this.symm
  exact (nodup.subperm among).perm_of_length_le (by simp [count])

/-! ## Naming again -/

/-- Where the names are those of the numbers from one on, each creature keeps its own. -/
theorem generate_numbered (titles : Context.Titles batch.nodes title) (levels : SpeciesLevels)
    {species : String} {creatures : List Creature}
    (same : ∀ creature ∈ creatures, creature.species = species)
    (distinct : (creatures.map Creature.id).Nodup)
    (enough : creatures.length ≤ batch.settings.uniqueLimit.toNat)
    (named : (creatures.map Creature.name).Perm
      ((List.range' 1 creatures.length).map (title species)))
    {creature : Creature} (member : creature ∈ creatures) :
    ((batch.context levels creature creatures).generate batch.nodes).name = creature.name := by
  obtain ⟨number, first, -, given, -⟩ := generate_firstFree titles levels member enough
  rw [same creature member] at first given
  have differentNames : (creatures.map Creature.name).Nodup :=
    named.nodup_iff.mpr (.map (fun _ _ => titles.inj) (List.nodup_range' 1))
  obtain ⟨own, inRange, ownName⟩ := List.mem_map.mp (named.mem_iff.mp (List.mem_map_of_mem member))
  rw [List.mem_range'_1] at inRange
  have ownFirst : (batch.context levels creature creatures).IsFirstFree (title species) own := by
    refine ⟨inRange.1, ?_, fun earlier positive before => ?_⟩
    · rintro ⟨-, other, sibling, different, equal⟩
      have := List.inj_on_of_nodup_map differentNames sibling member (equal.trans ownName)
      exact different (congrArg Creature.id this)
    · -- An earlier number is that of another creature.
      have earlierRange : earlier ∈ List.range' 1 creatures.length :=
        List.mem_range'_1.mpr ⟨positive, Nat.lt_trans before inRange.2⟩
      obtain ⟨other, sibling, otherName⟩ := List.mem_map.mp
        (named.mem_iff.mpr (List.mem_map_of_mem (f := title species) earlierRange))
      refine ⟨titles.ne_empty _ _, other, sibling, fun sameId => ?_, otherName⟩
      obtain rfl := List.inj_on_of_nodup_map distinct sibling member sameId
      exact Nat.ne_of_gt before (titles.inj (ownName.trans otherName))
  rw [given, ← ownName, first.eq ownFirst]

theorem renameFrom_unchanged (levels : SpeciesLevels) (done rest : List Creature)
    (keeps : ∀ creature ∈ rest,
      ((batch.context levels creature (done ++ rest)).generate batch.nodes).name = creature.name) :
    ∀ rename ∈ batch.renameFrom levels done rest, rename.changed = false := by
  induction rest generalizing done with
  | nil => simp [renameFrom]
  | cons creature rest ih =>
    have kept := keeps creature List.mem_cons_self
    rw [renameFrom, List.forall_mem_cons]
    refine ⟨by simp [Rename.changed, kept], ?_⟩
    simp only [kept]
    apply ih
    intro other later
    rw [List.append_assoc]
    exact keeps other (List.mem_cons_of_mem _ later)

/-! ## The whole collection -/

/-- The creatures with the names they get. -/
def withNewNames (renames : List Rename) (creatures : List Creature) : List Creature :=
  (renames.zip creatures).map fun (rename, creature) =>
    { creature with name := rename.outcome.name }

theorem ofSpecies_withNewNames (species : String) (creatures : List Creature) :
    ofSpecies species (withNewNames (batch.renameAll creatures) creatures) =
      withNewNames (batch.renameGroup (ofSpecies species creatures))
        (ofSpecies species creatures) := by
  unfold withNewNames
  rw [← (batch.renameAll_ofSpecies creatures).2, ofSpecies, List.filter_map]
  rfl

theorem withNewNames_map_name {renames : List Rename} {creatures : List Creature}
    (length : renames.length = creatures.length) :
    (withNewNames renames creatures).map Creature.name =
      renames.map fun rename => rename.outcome.name := by
  conv_rhs => rw [← List.map_fst_zip (Nat.le_of_eq length), List.map_map]
  rw [withNewNames, List.map_map]
  rfl

theorem withNewNames_map_id {renames : List Rename} {creatures : List Creature}
    (length : renames.length = creatures.length) :
    (withNewNames renames creatures).map Creature.id = creatures.map Creature.id := by
  conv_rhs => rw [← List.map_snd_zip (Nat.le_of_eq length.symm), List.map_map]
  rw [withNewNames, List.map_map]
  rfl

theorem withNewNames_length {renames : List Rename} {creatures : List Creature}
    (length : renames.length = creatures.length) :
    (withNewNames renames creatures).length = creatures.length := by
  simpa using congrArg List.length (withNewNames_map_id length)

theorem renameGroup_again (titles : Context.Titles batch.nodes title) {species : String}
    {creatures : List Creature} (same : ∀ creature ∈ creatures, creature.species = species)
    (distinct : (creatures.map Creature.id).Nodup)
    (enough : creatures.length ≤ batch.settings.uniqueLimit.toNat) :
    ∀ rename ∈ batch.renameGroup (withNewNames (batch.renameGroup creatures) creatures),
      rename.changed = false := by
  have length := renameGroup_length batch creatures
  obtain ⟨numbers, permuted, -, names, -⟩ := renameGroup_numbers titles same distinct enough
  apply renameFrom_unchanged
  intro creature member
  have sameAgain : ∀ other ∈ [] ++ withNewNames (batch.renameGroup creatures) creatures,
      other.species = species := by
    intro other among
    obtain ⟨entry, paired, rfl⟩ := List.mem_map.mp among
    exact same entry.2 (List.of_mem_zip paired).2
  refine generate_numbered titles _ sameAgain ?_ ?_ ?_ member
  · rwa [List.nil_append, withNewNames_map_id length]
  · rwa [List.nil_append, withNewNames_length length]
  · rw [List.nil_append, withNewNames_map_name length, withNewNames_length length, names]
    exact permuted.map _

/-- Where all ids are different, it is its own name that a result leaves for its id. -/
theorem get?_newNames {renames : List Rename} {rename : Rename}
    (distinct : (renames.map Rename.id).Nodup) (member : rename ∈ renames) :
    Table.get? rename.id
        (Table.putAll (renames.map fun rename => (rename.id, rename.outcome.name)) []) =
      some rename.outcome.name := by
  apply Table.get?_putAll_of_mem
  · rwa [List.map_map]
  · exact List.mem_map_of_mem member

/-- Where all ids are different, writing the names by id gives each creature its own new name. -/
theorem applyRenames_creatures (collection : Collection)
    (distinct : (collection.creatures.map Creature.id).Nodup) :
    (collection.applyRenames (batch.renameAll collection.creatures)).creatures =
      withNewNames (batch.renameAll collection.creatures) collection.creatures := by
  have length := renameAll_length batch collection.creatures
  have labels := renameAll_labels batch collection.creatures
  rw [← renameAll_ids batch] at distinct
  generalize batch.renameAll collection.creatures = renames at length labels distinct
  unfold Collection.applyRenames Collection.applyNames withNewNames
  dsimp only
  conv_lhs => rw [← List.map_snd_zip (Nat.le_of_eq length.symm), List.map_map]
  apply List.map_congr_left
  intro entry member
  have found := get?_newNames distinct (List.of_mem_zip member).1
  rw [(labels entry member).1] at found
  simp only [Function.comp_apply, found]

/-- A batch with a numbered pattern gives the creatures of each species the numbers from one to
their count, each once, and another batch on the renamed creatures changes no name. -/
theorem renameAll_numbers (batch : Batch) (creatures : List Creature)
    (numbered : Pattern.isNumbered batch.nodes = true)
    (distinct : ∀ species, ((ofSpecies species creatures).map Creature.id).Nodup)
    (enough : ∀ species,
      (ofSpecies species creatures).length ≤ batch.settings.uniqueLimit.toNat) :
    let renames := batch.renameAll creatures
    let again := batch.renameAll (withNewNames renames creatures)
    renames.length = creatures.length ∧
      (∀ species,
        let group := (renames.zip creatures).filter fun entry => entry.2.species == species
        (group.map fun entry => entry.1.outcome.uniqueNumber).Perm
            ((List.range' 1 (ofSpecies species creatures).length).map some) ∧
          ∀ entry ∈ group, entry.1.outcome.exhausted = false) ∧
      (again.length = creatures.length ∧ ∀ rename ∈ again, rename.changed = false) ∧
      ∀ collection : Collection, collection.creatures = creatures →
        (creatures.map Creature.id).Nodup →
          (collection.applyRenames renames).creatures = withNewNames renames creatures := by
  intro renames again
  have length : renames.length = creatures.length := renameAll_length batch creatures
  have renamedLength := withNewNames_length length
  obtain ⟨title, titles⟩ := Context.exists_titles numbered
  refine ⟨length, fun species => ?_, ⟨(renameAll_length _ _).trans renamedLength, ?_⟩, ?_⟩
  · obtain ⟨numbers, permuted, uniqueNumbers, -, found⟩ :=
      renameGroup_numbers titles species_of_ofSpecies (distinct species) (enough species)
    have results := (batch.renameAll_ofSpecies creatures).2 species
    intro group
    have all : group.map Prod.fst = batch.renameGroup (ofSpecies species creatures) := by
      rw [show group = _ from results]
      exact List.map_fst_zip (Nat.le_of_eq (renameGroup_length _ _))
    constructor
    · have shown : (group.map fun entry => entry.1.outcome.uniqueNumber) = numbers.map some := by
        rw [← uniqueNumbers, ← all, List.map_map]
        rfl
      rw [shown]
      exact permuted.map _
    · intro entry member
      exact found _ (all ▸ List.mem_map_of_mem member)
  · intro rename member
    have entries := List.map_fst_zip (Nat.le_of_eq
      (renameAll_length batch (withNewNames renames creatures)))
    rw [← show _ = again from entries] at member
    obtain ⟨entry, paired, rfl⟩ := List.mem_map.mp member
    have among := (List.of_mem_zip (mem_renameGroup_of_mem paired)).1
    rw [ofSpecies_withNewNames] at among
    exact renameGroup_again titles species_of_ofSpecies (distinct _) (enough _) _ among
  · rintro collection rfl allDistinct
    exact applyRenames_creatures collection allDistinct

/-- Old names block the first two numbers of a species until they are replaced. -/
theorem renameAll_numbers_blocked :
    let batch : Batch :=
      { nodes := [.token ⟨0, 9⟩ "Species", .literal ⟨9, 10⟩ "_", .token ⟨10, 13⟩ "n"]
        settings := { uniqueLimit := 3 }
        now := ⟨⟨0, 0⟩, 0⟩
        random := fun _ _ => "000000" }
    let creatures : List Creature :=
      [{ id := 1, species := "Rex" }, { id := 2, species := "Rex", name := "Rex_1" },
        { id := 3, species := "Raptor" }, { id := 4, species := "Rex", name := "Rex_2" }]
    let renames := batch.renameAll creatures
    let again := batch.renameAll (withNewNames renames creatures)
    Pattern.isNumbered batch.nodes = true ∧
      (∀ species, ((ofSpecies species creatures).map Creature.id).Nodup) ∧
      (∀ species, (ofSpecies species creatures).length ≤ batch.settings.uniqueLimit.toNat) ∧
      ((((renames.zip creatures).filter fun entry => entry.2.species == "Rex").map
        fun entry => entry.1.outcome.uniqueNumber).Perm [some 1, some 2, some 3]) ∧
      ∀ rename ∈ again, rename.changed = false := by
  intro batch creatures renames again
  have numbered : Pattern.isNumbered batch.nodes = true := by decide
  have distinct : ∀ species, ((ofSpecies species creatures).map Creature.id).Nodup := by
    intro species
    exact List.Nodup.sublist (List.filter_sublist.map _)
      (by decide : (creatures.map Creature.id).Nodup)
  have enough : ∀ species,
      (ofSpecies species creatures).length ≤ batch.settings.uniqueLimit.toNat := by
    intro species
    by_cases rex : species = "Rex"
    · subst rex
      decide
    · by_cases raptor : species = "Raptor"
      · subst raptor
        decide
      · simp [ofSpecies, creatures, Ne.symm rex, Ne.symm raptor]
  obtain ⟨-, numbers, stable, -⟩ := renameAll_numbers batch creatures numbered distinct enough
  exact ⟨numbered, distinct, enough, (numbers "Rex").1, stable.2⟩

end Batch

end CreatureNaming
