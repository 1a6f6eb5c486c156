import CreatureNaming.Naming.Batch
import CreatureNaming.Proofs.Grouping
import CreatureNaming.Proofs.Naming.NumberSearch

/-! Naming a collection by species is naming it one by one.

In the one-by-one process each creature is named in its turn, in the collection as it then stands,
and everything about its species is worked out anew. What it does to the creatures of one species
is what the batch does to them, and the results of all species together are in the order of the
collection.
-/

set_option autoImplicit false

namespace CreatureNaming

/-- The creatures of a species, in order. -/
def ofSpecies (species : String) (creatures : List Creature) : List Creature :=
  creatures.filter fun creature => creature.species == species

namespace Batch

variable {batch : Batch} {draws : Nat → Nat → String}

/-- What a creature is named with if nothing is shared with the creatures before it. -/
def aloneContext (batch : Batch) (random : Nat → String) (creature : Creature)
    (siblings : List Creature) : Context where
  creature
  siblings
  species := (batch.species.filter fun species => species.name == creature.species).getLast?
  colors := batch.colors
  replacements := batch.replacements
  settings := batch.settings
  mode := .commit
  now := batch.now
  random
  levels := .compute siblings

/-- Name the creatures still to be named one by one; `done` are those before them, with their new
names. -/
def oneByOneFrom (batch : Batch) (draws : Nat → Nat → String) (done : List Creature) :
    List Creature → List Rename
  | [] => []
  | creature :: rest =>
      let siblings := ofSpecies creature.species (done ++ creature :: rest)
      let outcome :=
        (batch.aloneContext (draws done.length) creature siblings).generate batch.nodes
      ⟨creature.id, creature.name, outcome⟩ ::
        oneByOneFrom batch draws (done ++ [{ creature with name := outcome.name }]) rest

/-- Name a collection one by one, each creature with random digits of its own. -/
def oneByOne (batch : Batch) (draws : Nat → Nat → String) (creatures : List Creature) :
    List Rename :=
  batch.oneByOneFrom draws [] creatures

theorem oneByOneFrom_length (done rest : List Creature) :
    (batch.oneByOneFrom draws done rest).length = rest.length := by
  induction rest generalizing done with
  | nil => rfl
  | cons creature rest ih => rw [oneByOneFrom, List.length_cons, ih, List.length_cons]

/-! ## One creature -/

theorem compute_named (before after : List Creature) (creature : Creature) (name : String) :
    SpeciesLevels.compute (before ++ { creature with name } :: after) =
      .compute (before ++ creature :: after) := by
  have counted (stat : Stat) : SpeciesLevels.counted (before ++ { creature with name } :: after) stat =
      SpeciesLevels.counted (before ++ creature :: after) stat := by
    unfold SpeciesLevels.counted
    rw [List.filterMap_append, List.filterMap_append]
    rfl
  unfold SpeciesLevels.compute
  simp only [counted]

theorem aloneContext_eq (random : Nat → String) (creature : Creature) (siblings : List Creature) :
    batch.aloneContext random creature siblings =
      (batch.context (.compute siblings) creature siblings).redrawn random := by
  unfold aloneContext context definition? Context.redrawn
  rw [List.getLast?_filter]

theorem generate_aloneContext (fixed : Pattern.mentions "rnd" batch.nodes = false)
    (random : Nat → String) (creature : Creature) (siblings : List Creature) :
    (batch.aloneContext random creature siblings).generate batch.nodes =
      (batch.context (.compute siblings) creature siblings).generate batch.nodes := by
  rw [aloneContext_eq, Context.generate_redrawn _ _ fixed]

/-! ## The creatures of a species -/

theorem ofSpecies_nil (species : String) : ofSpecies species [] = [] := rfl

theorem ofSpecies_cons (species : String) (creature : Creature) (rest : List Creature) :
    ofSpecies species (creature :: rest) =
      if creature.species == species then creature :: ofSpecies species rest
      else ofSpecies species rest :=
  List.filter_cons

theorem ofSpecies_append (species : String) (before after : List Creature) :
    ofSpecies species (before ++ after) = ofSpecies species before ++ ofSpecies species after :=
  List.filter_append before after

/-- The results of the one-by-one process for a species are those of naming its creatures among
themselves. -/
theorem renameFrom_ofSpecies (fixed : Pattern.mentions "rnd" batch.nodes = false)
    (draws : Nat → Nat → String) (species : String) (done : List Creature)
    (rest : List (Creature × Nat)) :
    (batch.renameFrom (.compute (ofSpecies species (done ++ rest.map Prod.fst)))
      (ofSpecies species done) (ofSpecies species (rest.map Prod.fst))).zip
        ((rest.filter fun entry => entry.1.species == species).map Prod.snd) =
    (((batch.oneByOneFrom draws done (rest.map Prod.fst)).zip rest).filter
      fun result => result.2.1.species == species).map fun result => (result.1, result.2.2) := by
  induction rest generalizing done with
  | nil => rfl
  | cons entry rest ih =>
    obtain ⟨creature, position⟩ := entry
    have later := fun name => ih (done ++ [{ creature with name }])
    simp only [List.append_assoc, List.singleton_append, ofSpecies_append, ofSpecies_cons,
      ofSpecies_nil] at later
    simp only [List.map_cons, List.filter_cons, oneByOneFrom, List.zip_cons_cons]
    cases same : creature.species == species with
    | true =>
      -- The creature is named among the same siblings in both, and the levels stay what they were.
      obtain rfl := eq_of_beq same
      simp only [same, if_true, compute_named] at later
      simp only [if_true, ofSpecies_append, ofSpecies_cons, same, renameFrom, List.map_cons,
        List.zip_cons_cons, generate_aloneContext fixed]
      exact congrArg (List.cons _) (later _)
    | false =>
      -- A creature of another species is in neither copy of the siblings.
      simp only [same, Bool.false_eq_true, if_false, List.append_nil] at later
      simp only [Bool.false_eq_true, if_false, ofSpecies_append, ofSpecies_cons, same]
      exact later _

/-! ## All creatures -/

theorem renameGroup_ofSpecies (fixed : Pattern.mentions "rnd" batch.nodes = false)
    (draws : Nat → Nat → String) (species : String) (creatures : List Creature) :
    let group := creatures.zipIdx.filter fun (creature, _) => creature.species == species
    (batch.renameGroup (group.map Prod.fst)).zip (group.map Prod.snd) =
      (((batch.oneByOne draws creatures).zip creatures.zipIdx).filter
        fun result => result.2.1.species == species).map fun result => (result.1, result.2.2) := by
  have members : (creatures.zipIdx.filter fun (creature, _) => creature.species == species).map
      Prod.fst = ofSpecies species (creatures.zipIdx.map Prod.fst) := by
    rw [ofSpecies, List.filter_map]
    rfl
  have renamed := renameFrom_ofSpecies fixed draws species [] creatures.zipIdx
  rw [List.nil_append, ofSpecies_nil, ← members, List.zipIdx_map_fst] at renamed
  exact renamed

/-- The results of all groups are those of the one-by-one process, in another order. -/
theorem renamed_perm (fixed : Pattern.mentions "rnd" batch.nodes = false)
    (draws : Nat → Nat → String) (creatures : List Creature) :
    ((groups creatures).flatMap fun group =>
      (batch.renameGroup (group.map Prod.fst)).zip (group.map Prod.snd)).Perm
        (batch.oneByOne draws creatures).zipIdx := by
  rw [groups, List.flatMap_map]
  exact dealt_perm Creature.species (oneByOneFrom_length [] creatures) fun species =>
    (renameGroup_ofSpecies fixed draws species creatures).symm

/-- Naming the species one after the other, in any order, is naming the creatures one by one. -/
theorem renameAll_eq_oneByOne (batch : Batch) (creatures : List Creature)
    (draws : Nat → Nat → String) (fixed : Pattern.mentions "rnd" batch.nodes = false) :
    batch.renameAll creatures = batch.oneByOne draws creatures ∧
      ∀ order, order.Perm (groups creatures) →
        batch.renameGroups order = batch.oneByOne draws creatures := by
  have anyOrder : ∀ order, order.Perm (groups creatures) →
      batch.renameGroups order = batch.oneByOne draws creatures := by
    intro order shuffled
    have renamed := (shuffled.flatMap_right _).trans (renamed_perm fixed draws creatures)
    rw [renameGroups, mergeSort_positions renamed, List.zipIdx_map_fst]
  exact ⟨anyOrder (groups creatures) (.refl _), anyOrder⟩

/-- A species comes between two creatures of another. -/
theorem renameAll_eq_oneByOne_between :
    let batch : Batch :=
      { nodes := [.token ⟨0, 9⟩ "species", .token ⟨9, 12⟩ "n"]
        now := ⟨⟨0, 0⟩, 0⟩
        random := fun _ _ => "000000" }
    let creatures : List Creature :=
      [{ id := 1, species := "Rex" }, { id := 2, species := "Raptor" }, { id := 3, species := "Rex" }]
    let draws : Nat → Nat → String := fun _ _ => "111111"
    Pattern.mentions "rnd" batch.nodes = false ∧
      batch.renameAll creatures = batch.oneByOne draws creatures ∧
      batch.renameGroups (groups creatures).reverse = batch.oneByOne draws creatures := by
  intro batch creatures draws
  have fixed : Pattern.mentions "rnd" batch.nodes = false := by decide
  have ⟨inOrder, anyOrder⟩ := renameAll_eq_oneByOne batch creatures draws fixed
  exact ⟨fixed, inOrder, anyOrder _ (List.reverse_perm _)⟩

end Batch

end CreatureNaming
