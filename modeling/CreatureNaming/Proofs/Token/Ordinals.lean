import CreatureNaming.Proofs.Time.Order
import CreatureNaming.Proofs.Token.Shown
import Mathlib.Data.List.Count
import Mathlib.Data.List.Nodup

/-! The numbers of creatures in their generation.

Each creature counts, from its own view, the others of its generation that were added before it. If
all were added at different times, these counts put the generation in one order without a gap.
-/

set_option autoImplicit false

namespace CreatureNaming

variable {first second third creature : Creature} {group creatures : List Creature}

/-! ## The order of adding -/

theorem addedBefore_iff : addedBefore first second = true ↔
    ∃ ours ∈ first.added, ∀ theirs ∈ second.added, ours.before theirs = true := by
  unfold addedBefore
  cases first.added <;> cases second.added <;> simp

theorem addedBefore_irrefl (creature : Creature) : addedBefore creature creature = false := by
  unfold addedBefore
  cases creature.added with
  | none => rfl
  | some added => exact added.before_irrefl

theorem addedBefore_trans (early : addedBefore first second = true)
    (late : addedBefore second third = true) : addedBefore first third = true := by
  rw [addedBefore_iff] at early late ⊢
  obtain ⟨ours, isOurs, early⟩ := early
  obtain ⟨between, isBetween, late⟩ := late
  refine ⟨ours, isOurs, fun theirs isTheirs => ?_⟩
  exact Time.Instant.before_trans (early between isBetween) (late theirs isTheirs)

/-- All creatures of a group were added, and no two at one time. -/
structure AddedApart (group : List Creature) : Prop where
  added : ∀ creature ∈ group, creature.added ≠ none
  apart : (group.map Creature.added).Nodup

theorem AddedApart.before_or_before (addedApart : AddedApart group) (isFirst : first ∈ group)
    (isSecond : second ∈ group) (different : first ≠ second) :
    addedBefore first second = true ∨ addedBefore second first = true := by
  have others : first.added ≠ second.added := fun same =>
    different (List.inj_on_of_nodup_map addedApart.apart isFirst isSecond same)
  obtain ⟨ours, isOurs⟩ := Option.ne_none_iff_exists'.mp (addedApart.added first isFirst)
  obtain ⟨theirs, isTheirs⟩ := Option.ne_none_iff_exists'.mp (addedApart.added second isSecond)
  rw [isOurs, isTheirs] at others
  simp only [addedBefore, isOurs, isTheirs]
  exact Time.Instant.before_or_before fun same => others (congrArg some same)

theorem AddedApart.sublist {fewer : List Creature} (addedApart : AddedApart group)
    (part : fewer.Sublist group) : AddedApart fewer := by
  constructor
  · intro creature member
    exact addedApart.added creature (part.subset member)
  · exact addedApart.apart.sublist (part.map Creature.added)

/-! ## Places -/

/-- The place of a creature in a group, from one on. -/
def place (group : List Creature) (creature : Creature) : Nat :=
  group.countP (fun other => addedBefore other creature) + 1

theorem place_lt_place (member : first ∈ group) (early : addedBefore first second = true) :
    place group first < place group second := by
  obtain ⟨before, after, rfl⟩ := List.append_of_mem member
  have mono (part : List Creature) :
      part.countP (fun other => addedBefore other first) ≤
        part.countP fun other => addedBefore other second :=
    List.countP_mono_left fun other _ earlier => addedBefore_trans earlier early
  have inBefore := mono before
  have inAfter := mono after
  simp only [place, List.countP_append, List.countP_cons, addedBefore_irrefl, early]
  simp
  omega

theorem place_le (member : creature ∈ group) : place group creature ≤ group.length := by
  unfold place
  apply Nat.succ_le_of_lt
  exact List.countP_lt_length_iff.mpr ⟨creature, member, addedBefore_irrefl creature⟩

theorem AddedApart.place_lt_iff (addedApart : AddedApart group) (isFirst : first ∈ group)
    (isSecond : second ∈ group) :
    place group first < place group second ↔ addedBefore first second = true := by
  constructor
  · intro less
    by_contra notBefore
    rcases eq_or_ne first second with rfl | different
    · exact Nat.lt_irrefl _ less
    · have later := (addedApart.before_or_before isFirst isSecond different).resolve_left notBefore
      exact Nat.lt_asymm less (place_lt_place isSecond later)
  · exact place_lt_place isFirst

/-- The places of a group are the numbers from one on, each once. -/
theorem AddedApart.places_perm (addedApart : AddedApart group) :
    (group.map (place group)).Perm (List.range' 1 group.length) := by
  have nodup : (group.map (place group)).Nodup := by
    refine List.Nodup.map_on ?_ (List.Nodup.of_map _ addedApart.apart)
    intro first isFirst second isSecond same
    by_contra different
    rcases addedApart.before_or_before isFirst isSecond different with early | early
    · exact absurd same (Nat.ne_of_lt (place_lt_place isFirst early))
    · exact absurd same (Nat.ne_of_gt (place_lt_place isSecond early))
  have within : group.map (place group) ⊆ List.range' 1 group.length := by
    intro number member
    obtain ⟨creature, inGroup, rfl⟩ := List.mem_map.mp member
    have most := place_le inGroup
    have least : 1 ≤ place group creature := Nat.le_add_left _ _
    rw [List.mem_range'_1]
    omega
  exact (List.subperm_of_subset nodup within).perm_of_length_le (by simp)

/-- A creature that is not yet added comes behind all of a group. -/
theorem place_of_notAdded (added : ∀ other ∈ group, other.added ≠ none)
    (notAdded : creature.added = none) : place group creature = group.length + 1 := by
  apply congrArg (· + 1)
  apply List.countP_eq_length.mpr
  intro other member
  obtain ⟨theirs, isTheirs⟩ := Option.ne_none_iff_exists'.mp (added other member)
  rw [addedBefore, isTheirs, notAdded]

/-! ## Tokens -/

namespace Context

variable {context : Context} {token : Token}

/-- A token that counts the others of a group that were added before shows the creature's place in
the group, if no entry with its number was added before it. -/
theorem shows_place (peer : Creature → Bool)
    (value : token.value context = ordinalText (context.others.filter fun other =>
      peer other && addedBefore other context.creature))
    (unnumbered : token ≠ .uniqueNumber) (known : token ≠ .random)
    (own : ∀ sibling ∈ context.siblings, sibling.id = context.creature.id →
      addedBefore sibling context.creature = false) :
    context.Shows token
      (Number.integerText (place (context.siblings.filter peer) context.creature)) := by
  have counted : (context.others.filter fun other =>
      peer other && addedBefore other context.creature).length =
        (context.siblings.filter peer).countP fun other => addedBefore other context.creature := by
    rw [← List.countP_eq_length_filter, others, List.countP_filter, List.countP_filter]
    apply List.countP_congr
    intro sibling member
    have foreign := own sibling member
    grind
  have shows := context.shows_value unnumbered known
  rw [value, ordinalText, counted] at shows
  exact shows

end Context

/-- Named among some creatures, those of a group show numbers from one on, each one of them, in the
order in which they were added. -/
def Numbers (creatures : List Creature) (token : Token) (member : Creature → Bool) : Prop :=
  ∃ number : Creature → Nat,
    (∀ context : Context, context.siblings = creatures →
      context.creature ∈ creatures.filter member →
        context.Shows token (Number.integerText (number context.creature))) ∧
    ((creatures.filter member).map number).Perm
      (List.range' 1 (creatures.filter member).length) ∧
    ∀ first ∈ creatures.filter member, ∀ second ∈ creatures.filter member,
      ∀ ours ∈ first.added, ∀ theirs ∈ second.added,
        number first < number second ↔ ours.before theirs = true

theorem AddedApart.numbers {token : Token} {member : Creature → Bool}
    (addedApart : AddedApart (creatures.filter member))
    (distinct : (creatures.map Creature.id).Nodup)
    (value : ∀ context : Context, member context.creature = true →
      token.value context = ordinalText (context.others.filter fun other =>
        member other && addedBefore other context.creature))
    (unnumbered : token ≠ .uniqueNumber) (known : token ≠ .random) :
    Numbers creatures token member := by
  refine ⟨place (creatures.filter member), ?_, addedApart.places_perm, ?_⟩
  · rintro context rfl inGroup
    obtain ⟨listed, isMember⟩ := List.mem_filter.mp inGroup
    refine Context.shows_place member (value context isMember) unnumbered known ?_
    intro sibling isSibling same
    rw [List.inj_on_of_nodup_map distinct isSibling listed same]
    exact addedBefore_irrefl context.creature
  · intro first isFirst second isSecond ours isOurs theirs isTheirs
    rw [addedApart.place_lt_iff isFirst isSecond, addedBefore, Option.mem_def.mp isOurs,
      Option.mem_def.mp isTheirs]

/-- In a generation whose creatures were all added, and at different times, the numbers that they
show run from one on in the order of adding, in the generation as in each sex of it; and one that is
not yet added shows the next number. -/
theorem numberInGeneration_ranks (creatures : List Creature) (generation : UInt32)
    (distinct : (creatures.map Creature.id).Nodup)
    (addedApart : AddedApart (creatures.filter fun creature => creature.generation == generation)) :
    Numbers creatures .numberInGeneration (fun creature => creature.generation == generation) ∧
      (∀ sex, Numbers creatures .numberInGenerationSex fun creature =>
        creature.generation == generation && creature.sex == sex) ∧
      ∀ context : Context, context.siblings = creatures →
        context.creature.generation = generation → context.creature.added = none →
        context.creature.id ∉ creatures.map Creature.id →
          context.Shows .numberInGeneration (Number.integerText
            ((creatures.filter fun creature => creature.generation == generation).length + 1)) := by
  refine ⟨?_, fun sex => ?_, ?_⟩
  · refine addedApart.numbers distinct ?_ nofun nofun
    intro context member
    rw [← eq_of_beq member]
    rfl
  · have ofSex : (creatures.filter fun creature =>
        creature.generation == generation && creature.sex == sex).Sublist
          (creatures.filter fun creature => creature.generation == generation) :=
      List.monotone_filter_right _ fun creature both => (Bool.and_eq_true_iff.mp both).1
    refine (addedApart.sublist ofSex).numbers distinct ?_ nofun nofun
    intro context member
    obtain ⟨sameGeneration, sameSex⟩ := Bool.and_eq_true_iff.mp member
    rw [← eq_of_beq sameGeneration, ← eq_of_beq sameSex]
    rfl
  · rintro context rfl rfl notAdded unlisted
    have own : ∀ sibling ∈ context.siblings, sibling.id = context.creature.id →
        addedBefore sibling context.creature = false :=
      fun sibling isSibling same => absurd (same ▸ List.mem_map_of_mem isSibling) unlisted
    have shows : context.Shows .numberInGeneration _ := Context.shows_place
      (fun other => other.generation == context.creature.generation) rfl nofun nofun own
    rwa [place_of_notAdded addedApart.added notAdded] at shows

/-- Three creatures of a generation, not listed in the order in which they were added, one of the
generation before, which was not, and one that is still to be added. -/
theorem numberInGeneration_ranks_unordered :
    let instant (seconds : Int) : Option Time.Instant := some ⟨seconds, 0⟩
    let creatures : List Creature :=
      [{ id := 1, generation := 2, added := instant 300 },
        { id := 2, generation := 2, added := instant 100, sex := .female },
        { id := 3, generation := 1 },
        { id := 4, generation := 2, added := instant 200, sex := .female }]
    let context : Context :=
      { creature := { id := 5, generation := 2 }, siblings := creatures, now := ⟨⟨0, 0⟩, 0⟩
        random := fun _ => "000000" }
    (creatures.map Creature.id).Nodup ∧
      AddedApart (creatures.filter fun creature => creature.generation == 2) ∧
      Numbers creatures .numberInGeneration (fun creature => creature.generation == 2) ∧
      Numbers creatures .numberInGenerationSex (fun creature =>
        creature.generation == 2 && creature.sex == .female) ∧
      context.creature.id ∉ creatures.map Creature.id ∧
      context.Shows .numberInGeneration "4" := by
  intro instant creatures context
  have distinct : (creatures.map Creature.id).Nodup := by decide
  have addedApart : AddedApart (creatures.filter fun creature => creature.generation == 2) :=
    ⟨by decide, by decide⟩
  have unlisted : context.creature.id ∉ creatures.map Creature.id := by decide
  have ⟨ranked, rankedBySex, next⟩ := numberInGeneration_ranks creatures 2 distinct addedApart
  have four : Number.integerText
      ((creatures.filter fun creature => creature.generation == 2).length + 1) = "4" := by decide
  exact ⟨distinct, addedApart, ranked, rankedBySex .female, unlisted,
    four ▸ next context rfl rfl rfl unlisted⟩

end CreatureNaming
