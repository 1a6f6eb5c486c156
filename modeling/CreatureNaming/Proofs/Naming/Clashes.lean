import CreatureNaming.Proofs.Naming.BySpecies

/-! Names that clash.

A name that is reported neither as exhausted nor as duplicate is the name of no other creature at
the time it is given. The creatures before it have their new names by then and those behind it
still their old ones, so a batch creates no clash without reporting it. This does not hang on the
random digits: they may be drawn anew for each rendering.
-/

set_option autoImplicit false

namespace CreatureNaming

/-- The outcome is a name, and does not say that another creature has it. -/
def Outcome.IsFree (outcome : Outcome) : Prop :=
  outcome.exhausted = false ∧ outcome.duplicate = false ∧ outcome.name ≠ ""

namespace Context

variable {context : Context} {nodes : List Pattern.Node}

/-- A search that neither comes to its end nor stops at a duplicate has found a name that is not
taken. -/
theorem searchFrom_untaken (taken : List String) (number more : Nat)
    (found : (context.searchFrom nodes taken number more).exhausted = false)
    (single : (context.searchFrom nodes taken number more).duplicate = false) :
    taken.contains (context.searchFrom nodes taken number more).name = false := by
  induction more generalizing number with
  | zero =>
    unfold searchFrom at found single ⊢
    grind
  | succ more ih =>
    unfold searchFrom at found single ⊢
    grind

/-! ## Random digits that change from rendering to rendering -/

/-- The search, each number with random digits of its own. -/
def searchDrawing (context : Context) (draws : Unique → Nat → String) (nodes : List Pattern.Node)
    (taken : List String) (number more : Nat) : Outcome :=
  let outcome := (context.redrawn (draws (.number number))).searchFrom nodes taken number 0
  match more with
  | 0 => outcome
  | more + 1 =>
      if outcome.exhausted then searchDrawing context draws nodes taken (number + 1) more
      else outcome

/-- The name that a pattern gives to the creature, each rendering with random digits of its own. -/
def generateDrawing (context : Context) (draws : Unique → Nat → String)
    (nodes : List Pattern.Node) : Outcome :=
  match Pattern.mentions "n" nodes, context.searchLimit with
  | true, more + 1 =>
      let outcome := context.searchDrawing draws nodes context.taken 1 more
      { outcome with tooLong := context.isTooLong outcome.name }
  | _, _ => (context.redrawn (draws .placeholder)).generate nodes

theorem searchDrawing_same (taken : List String) (number more : Nat) :
    context.searchDrawing (fun _ => context.random) nodes taken number more =
      context.searchFrom nodes taken number more := by
  induction more generalizing number with
  | zero => rfl
  | succ more ih =>
    have same : context.redrawn context.random = context := rfl
    rw [searchDrawing, ih, same]
    conv_rhs => rw [searchFrom]
    -- Both sides try this number and go on in the same way.
    generalize context.searchFrom nodes taken (number + 1) more = later
    unfold searchFrom
    grind

/-- Where the digits stay the same, nothing is new. -/
theorem generateDrawing_same (context : Context) (nodes : List Pattern.Node) :
    context.generateDrawing (fun _ => context.random) nodes = context.generate nodes := by
  unfold generateDrawing
  split
  · next more mentioned limit =>
    simp only [generate, search, mentioned, limit, if_true, searchDrawing_same]
  · rfl

theorem searchDrawing_untaken (draws : Unique → Nat → String) (taken : List String)
    (number more : Nat)
    (found : (context.searchDrawing draws nodes taken number more).exhausted = false)
    (single : (context.searchDrawing draws nodes taken number more).duplicate = false) :
    taken.contains (context.searchDrawing draws nodes taken number more).name = false := by
  induction more generalizing number with
  | zero => exact searchFrom_untaken taken number 0 found single
  | succ more ih =>
    rw [searchDrawing] at found single ⊢
    split at found
    · next last =>
      rw [if_pos last] at single ⊢
      exact ih (number + 1) found single
    · next free =>
      rw [if_neg free] at single ⊢
      exact searchFrom_untaken taken number 0 found single

theorem generateDrawing_untaken (draws : Unique → Nat → String) (searches : 0 < context.searchLimit)
    (free : (context.generateDrawing draws nodes).IsFree) :
    ¬context.IsTaken (context.generateDrawing draws nodes).name := by
  obtain ⟨found, single, -⟩ := free
  rw [← contains_taken, Bool.not_eq_true]
  obtain ⟨more, limit⟩ := Nat.exists_eq_succ_of_ne_zero (Nat.pos_iff_ne_zero.mp searches)
  unfold generateDrawing at found single ⊢
  cases mentioned : Pattern.mentions "n" nodes with
  | true =>
    simp only [mentioned, limit] at found single ⊢
    exact searchDrawing_untaken draws _ _ _ found single
  | false =>
    -- Without a search, the duplicate flag itself is the answer.
    simp only [mentioned, generate] at single ⊢
    exact single

end Context

namespace Batch

variable {batch : Batch} {levels : SpeciesLevels}

/-- Results of naming the creatures of a species as `renameFrom` does, but each rendering with
random digits of its own. -/
inductive DrawnFrom (batch : Batch) (levels : SpeciesLevels) :
    List Creature → List Creature → List Rename → Prop where
  | nil (done : List Creature) : DrawnFrom batch levels done [] []
  | cons {done rest : List Creature} {creature : Creature} {outcome : Outcome}
      {renames : List Rename} (draws : Unique → Nat → String)
      (named : (batch.context levels creature (done ++ creature :: rest)).generateDrawing draws
        batch.nodes = outcome)
      (others : DrawnFrom batch levels (done ++ [{ creature with name := outcome.name }]) rest
        renames) :
      DrawnFrom batch levels done (creature :: rest)
        (⟨creature.id, creature.name, outcome⟩ :: renames)

/-- Results of a batch, one for each creature, each rendering with random digits of its own. -/
def Drawn (batch : Batch) (creatures : List Creature) (renames : List Rename) : Prop :=
  renames.length = creatures.length ∧ ∀ species,
    batch.DrawnFrom (.compute (ofSpecies species creatures)) [] (ofSpecies species creatures)
      (((renames.zip creatures).filter fun entry => entry.2.species == species).map Prod.fst)

theorem renameFrom_drawn (levels : SpeciesLevels) (done rest : List Creature) :
    batch.DrawnFrom levels done rest (batch.renameFrom levels done rest) := by
  induction rest generalizing done with
  | nil => exact .nil done
  | cons creature rest ih =>
    exact .cons _ (Context.generateDrawing_same _ _) (ih _)

theorem renameAll_drawn (batch : Batch) (creatures : List Creature) :
    batch.Drawn creatures (batch.renameAll creatures) := by
  refine ⟨renameAll_length batch creatures, fun species => ?_⟩
  rw [(batch.renameAll_ofSpecies creatures).2,
    List.map_fst_zip (Nat.le_of_eq (renameGroup_length _ _))]
  exact renameFrom_drawn _ [] _

/-- A free name is that of no sibling with another id. -/
theorem generateDrawing_ne_sibling {creature other : Creature} {siblings : List Creature}
    {draws : Unique → Nat → String} {outcome : Outcome}
    (named : (batch.context levels creature siblings).generateDrawing draws batch.nodes = outcome)
    (member : other ∈ siblings) (different : other.id ≠ creature.id) (free : outcome.IsFree) :
    outcome.name ≠ other.name := by
  intro same
  have searches : 0 < (batch.context levels creature siblings).searchLimit :=
    Nat.lt_of_lt_of_le Nat.zero_lt_one (Nat.le_max_right _ _)
  subst named
  apply Context.generateDrawing_untaken draws searches free
  exact ⟨free.2.2, other, member, different, same.symm⟩

/-- The results of two creatures, if they have different ids, keep apart: the later one gets no
name that the earlier one got, and the earlier one none that the later one had. -/
def KeepApart (earlier later : Rename × Creature) : Prop :=
  earlier.2.id ≠ later.2.id →
    (later.1.outcome.IsFree → earlier.1.outcome.name ≠ later.1.outcome.name) ∧
    (earlier.1.outcome.IsFree → earlier.1.outcome.name ≠ later.2.name)

variable {done rest : List Creature} {renames : List Rename}

/-- A name that is in force is not given again. -/
theorem DrawnFrom.ne_done (drawn : batch.DrawnFrom levels done rest renames) :
    ∀ settled ∈ done, ∀ entry ∈ renames.zip rest,
      settled.id ≠ entry.2.id → entry.1.outcome.IsFree →
        settled.name ≠ entry.1.outcome.name := by
  induction drawn with
  | nil => simp
  | cons draws named others ih =>
    intro settled before entry among different free
    rw [List.zip_cons_cons, List.mem_cons] at among
    rcases among with rfl | later
    · exact (generateDrawing_ne_sibling named (List.mem_append_left _ before) different free).symm
    · exact ih settled (List.mem_append_left _ before) entry later different free

theorem DrawnFrom.keepApart (drawn : batch.DrawnFrom levels done rest renames) :
    (renames.zip rest).Pairwise KeepApart := by
  induction drawn with
  | nil => simp
  | @cons done rest creature outcome renames draws named others ih =>
    rw [List.zip_cons_cons, List.pairwise_cons]
    refine ⟨fun entry later different => ⟨fun free => ?_, fun free => ?_⟩, ih⟩
    · -- The new name is in force when the later creature is named.
      exact others.ne_done _ (List.mem_append_right _ List.mem_cons_self) entry later different free
    · -- The old name of the later creature is in force here.
      have behind : entry.2 ∈ done ++ creature :: rest :=
        List.mem_append_right _ (List.mem_cons_of_mem _ (List.of_mem_zip later).2)
      exact generateDrawing_ne_sibling named behind different.symm free

/-- A batch creates no clash within a species that it does not report, nor would it if random
digits were drawn anew for each rendering. -/
theorem renameAll_keepApart (batch : Batch) (creatures : List Creature) :
    let apart := fun renames : List Rename =>
      renames.length = creatures.length ∧
        (renames.zip creatures).Pairwise fun earlier later =>
          earlier.2.species = later.2.species → KeepApart earlier later
    apart (batch.renameAll creatures) ∧
      ∀ renames, batch.Drawn creatures renames → apart renames := by
  intro apart
  have all : ∀ renames, batch.Drawn creatures renames → apart renames := by
    rintro renames ⟨length, drawn⟩
    refine ⟨length, ?_⟩
    apply pairwise_of_groups fun entry : Rename × Creature => entry.2.species
    intro species
    have apartThere := (drawn species).keepApart
    generalize same : ((renames.zip creatures).filter fun entry =>
      entry.2.species == species) = group at *
    have own : group.map Prod.snd = ofSpecies species creatures := by
      conv_rhs => rw [ofSpecies, ← List.map_snd_zip (Nat.le_of_eq length.symm), List.filter_map]
      rw [← same]
      rfl
    rwa [← own, ← List.unzip_fst, ← List.unzip_snd, List.zip_unzip] at apartThere
  exact ⟨all _ (renameAll_drawn batch creatures), all⟩

/-- With its first digits the first creature would take the old name of the second one. -/
theorem renameAll_keepApart_redrawn :
    let batch : Batch :=
      { nodes := [.token ⟨0, 5⟩ "rnd", .token ⟨5, 8⟩ "n"]
        now := ⟨⟨0, 0⟩, 0⟩
        random := fun _ _ => "000000" }
    let creatures : List Creature :=
      [{ id := 1, species := "Rex" }, { id := 2, species := "Rex", name := "1111111" }]
    let first : Outcome := { name := "2222222", uniqueNumber := some 2 }
    let second : Outcome := { name := "3333331", uniqueNumber := some 1 }
    batch.Drawn creatures [⟨1, "", first⟩, ⟨2, "1111111", second⟩] ∧
      second.IsFree ∧ first.name ≠ second.name ∧ first.IsFree ∧ first.name ≠ "1111111" := by
  intro batch creatures first second
  have drawn : batch.Drawn creatures [⟨1, "", first⟩, ⟨2, "1111111", second⟩] := by
    refine ⟨rfl, fun species => ?_⟩
    by_cases rex : species = "Rex"
    · subst rex
      let draws : Unique → Nat → String := fun unique _ =>
        if unique = .number 1 then "111111" else "222222"
      refine .cons draws (by decide +kernel) ?_
      exact .cons (fun _ _ => "333333") (by decide +kernel) (.nil _)
    · simpa [ofSpecies, creatures, Ne.symm rex] using DrawnFrom.nil []
  have free : first.IsFree ∧ second.IsFree := by
    unfold Outcome.IsFree
    decide
  obtain ⟨-, apart⟩ := (renameAll_keepApart batch creatures).2 _ drawn
  obtain ⟨new, old⟩ := List.rel_of_pairwise_cons apart (List.mem_singleton_self _) rfl (by decide)
  exact ⟨drawn, free.2, new free.2, free.1, old free.1⟩

end Batch

end CreatureNaming
