import CreatureNaming.Proofs.Time.Order
import CreatureNaming.Proofs.Token.Shown
import Mathlib.Data.List.Nodup

/-! The oldest creature of a species, as each of its creatures sees it.

A creature looks for the one that was added first at itself, and then at the others in their order.
So where several were added first, one of them takes itself for the oldest, and all others take the
one that is listed before the rest.
-/

set_option autoImplicit false

namespace CreatureNaming

/-! ## The earliest entry -/

section Earliest

variable {entries rest : List (Time.Instant × Creature)} {first best : Time.Instant × Creature}

theorem earliest_eq_none (none : earliest entries = none) : entries = [] := by
  cases entries with
  | nil => rfl
  | cons first rest =>
    unfold earliest at none
    split at none
    · cases none
    · split at none <;> cases none

/-- The earliest entry is one that no entry is before. -/
theorem earliest_eq_some (found : earliest entries = some best) :
    best ∈ entries ∧ ∀ entry ∈ entries, entry.1.before best.1 = false := by
  induction entries generalizing best with
  | nil => cases found
  | cons first rest ih =>
    unfold earliest at found
    split at found
    · next none =>
      cases found
      rw [earliest_eq_none none]
      simp [Time.Instant.before_irrefl]
    · next last isLast =>
      obtain ⟨member, unpreceded⟩ := ih isLast
      split at found
      · next earlier =>
        cases found
        refine ⟨List.mem_cons_of_mem _ member, List.forall_mem_cons.mpr ⟨?_, unpreceded⟩⟩
        exact Time.Instant.not_before_of_before earlier
      · next notEarlier =>
        cases found
        refine ⟨List.mem_cons_self, List.forall_mem_cons.mpr ⟨first.1.before_irrefl, ?_⟩⟩
        intro entry among
        rw [Bool.not_eq_true] at notEarlier
        exact Time.Instant.not_before_trans notEarlier (unpreceded entry among)

/-- Of several entries that are earliest the first one is taken. -/
theorem earliest_cons (unpreceded : ∀ entry ∈ rest, entry.1.before first.1 = false) :
    earliest (first :: rest) = some first := by
  unfold earliest
  split
  · rfl
  · next best found => simp [unpreceded best (earliest_eq_some found).1]

end Earliest

/-- The creature is one of those that have a name and were added first. -/
def IsOldest (creatures : List Creature) (creature : Creature) : Prop :=
  creature ∈ creatures ∧ creature.name ≠ "" ∧ ∃ added ∈ creature.added,
    ∀ other ∈ creatures, other.name ≠ "" → ∀ theirs ∈ other.added, theirs.before added = false

instance (creatures : List Creature) (creature : Creature) :
    Decidable (IsOldest creatures creature) :=
  inferInstanceAs (Decidable (_ ∧ _ ∧ ∃ added ∈ creature.added, ∀ other ∈ creatures,
    other.name ≠ "" → ∀ theirs ∈ other.added, theirs.before added = false))

namespace Context

variable {context : Context} {creature : Creature} {added : Time.Instant}

theorem mem_namedAndAdded : (added, creature) ∈ context.namedAndAdded ↔
    creature ∈ context.creature :: context.others ∧ creature.name ≠ "" ∧
      creature.added = some added := by
  unfold namedAndAdded
  rw [List.mem_filterMap]
  constructor
  · rintro ⟨other, among, found⟩
    obtain ⟨named, found⟩ := Option.ite_none_left_eq_some.mp found
    obtain ⟨_, isAdded, same⟩ := Option.map_eq_some_iff.mp found
    cases same
    exact ⟨among, by simpa using named, isAdded⟩
  · rintro ⟨among, named, isAdded⟩
    exact ⟨creature, among, by simp [named, isAdded]⟩

/-- A listed creature and the others are the creatures that are listed. -/
theorem mem_others_iff (distinct : (context.siblings.map Creature.id).Nodup)
    (listed : context.creature ∈ context.siblings) :
    creature ∈ context.creature :: context.others ↔ creature ∈ context.siblings := by
  rw [List.mem_cons, others, List.mem_filter, bne_iff_ne]
  constructor
  · rintro (rfl | ⟨member, -⟩)
    · exact listed
    · exact member
  · intro member
    by_cases same : creature.id = context.creature.id
    · exact .inl (List.inj_on_of_nodup_map distinct member listed same)
    · exact .inr ⟨member, same⟩

section Listed

variable (distinct : (context.siblings.map Creature.id).Nodup)
  (listed : context.creature ∈ context.siblings)

include distinct listed

theorem isOldest_of_earliest {oldest : Time.Instant × Creature}
    (found : earliest context.namedAndAdded = some oldest) :
    IsOldest context.siblings oldest.2 := by
  obtain ⟨member, unpreceded⟩ := earliest_eq_some found
  obtain ⟨among, named, isAdded⟩ := mem_namedAndAdded.mp member
  refine ⟨(mem_others_iff distinct listed).mp among, named, oldest.1, isAdded, ?_⟩
  intro other isListed otherNamed theirs isTheirs
  apply unpreceded (theirs, other)
  exact mem_namedAndAdded.mpr ⟨(mem_others_iff distinct listed).mpr isListed, otherNamed, isTheirs⟩

/-- What a creature shows is the first word of one that is oldest. -/
theorem firstWordOfOldest_of_isOldest (isOldest : IsOldest context.siblings creature) :
    ∃ oldest, IsOldest context.siblings oldest ∧
      context.firstWordOfOldest = Text.firstWord oldest.name := by
  unfold firstWordOfOldest
  cases found : earliest context.namedAndAdded with
  | none =>
    obtain ⟨isListed, named, added, isAdded, -⟩ := isOldest
    have member : (added, creature) ∈ context.namedAndAdded :=
      mem_namedAndAdded.mpr ⟨(mem_others_iff distinct listed).mpr isListed, named, isAdded⟩
    rw [earliest_eq_none found] at member
    cases member
  | some oldest => exact ⟨oldest.2, isOldest_of_earliest distinct listed found, rfl⟩

theorem firstWordOfOldest_none (none : ∀ creature, ¬IsOldest context.siblings creature) :
    context.firstWordOfOldest = "" := by
  unfold firstWordOfOldest
  cases found : earliest context.namedAndAdded with
  | none => rfl
  | some oldest => exact absurd (isOldest_of_earliest distinct listed found) (none oldest.2)

end Listed

/-- A creature that is one of the oldest shows its own first word. -/
theorem firstWordOfOldest_self (isOldest : IsOldest context.siblings context.creature) :
    context.firstWordOfOldest = Text.firstWord context.creature.name := by
  obtain ⟨listed, named, added, isAdded, unpreceded⟩ := isOldest
  obtain ⟨rest, starts⟩ : ∃ rest, context.namedAndAdded = (added, context.creature) :: rest := by
    simp [namedAndAdded, named, Option.mem_def.mp isAdded]
  have later : ∀ entry ∈ rest, entry.1.before added = false := by
    intro entry member
    have whole : entry ∈ context.namedAndAdded := starts ▸ List.mem_cons_of_mem _ member
    obtain ⟨among, otherNamed, isTheirs⟩ := mem_namedAndAdded.mp whole
    have isListed : entry.2 ∈ context.siblings := by
      rcases List.mem_cons.mp among with own | among
      · exact own ▸ listed
      · exact (List.mem_filter.mp among).1
    exact unpreceded entry.2 isListed otherNamed entry.1 isTheirs
  rw [firstWordOfOldest, starts, earliest_cons later]

end Context

/-- The word of the oldest is the same for all creatures of a species just if all that were added
first begin with the same word. -/
theorem firstWordOfOldest_shared_iff (creatures : List Creature)
    (distinct : (creatures.map Creature.id).Nodup) :
    (∃ word, ∀ context : Context, context.siblings = creatures →
      context.creature ∈ creatures → context.Shows .firstWordOfOldest word) ↔
      ∀ first second, IsOldest creatures first → IsOldest creatures second →
        Text.firstWord first.name = Text.firstWord second.name := by
  constructor
  · rintro ⟨word, shared⟩ first second isFirst isSecond
    have sees {creature : Creature} (isOldest : IsOldest creatures creature) :
        Text.firstWord creature.name = word := by
      let context : Context :=
        { creature, siblings := creatures, now := ⟨⟨0, 0⟩, 0⟩, random := fun _ => "" }
      have own : context.Shows .firstWordOfOldest context.firstWordOfOldest :=
        context.shows_value nofun nofun
      rw [Context.firstWordOfOldest_self isOldest] at own
      exact own.eq (shared context rfl isOldest.1)
    rw [sees isFirst, sees isSecond]
  · intro same
    rcases Classical.em (∃ oldest, IsOldest creatures oldest) with ⟨oldest, isOldest⟩ | none
    · refine ⟨Text.firstWord oldest.name, ?_⟩
      rintro context rfl listed
      obtain ⟨seen, isSeen, shown⟩ :=
        Context.firstWordOfOldest_of_isOldest distinct listed isOldest
      rw [same oldest seen isOldest isSeen, ← shown]
      exact context.shows_value nofun nofun
    · refine ⟨"", ?_⟩
      rintro context rfl listed
      rw [← Context.firstWordOfOldest_none distinct listed (not_exists.mp none)]
      exact context.shows_value nofun nofun

/-- Two were added first and share their first word, one came later, and one before them that has no
name. -/
theorem firstWordOfOldest_shared_iff_sameWord :
    let instant (seconds : Int) : Option Time.Instant := some ⟨seconds, 0⟩
    let creatures : List Creature :=
      [{ id := 1, name := "Young One", added := instant 500 },
        { id := 2, name := "Big Mama", added := instant 100 },
        { id := 3, name := "Big Boy", added := instant 100 }, { id := 4, added := instant 10 }]
    (creatures.map Creature.id).Nodup ∧
      IsOldest creatures { id := 2, name := "Big Mama", added := instant 100 } ∧
      IsOldest creatures { id := 3, name := "Big Boy", added := instant 100 } ∧
      ∃ word, ∀ context : Context, context.siblings = creatures →
        context.creature ∈ creatures → context.Shows .firstWordOfOldest word := by
  intro instant creatures
  have distinct : (creatures.map Creature.id).Nodup := by decide
  have words : ∀ creature ∈ creatures, IsOldest creatures creature →
      Text.firstWord creature.name = "Big" := by decide
  refine ⟨distinct, by decide, by decide, ?_⟩
  apply (firstWordOfOldest_shared_iff creatures distinct).mpr
  intro first second isFirst isSecond
  rw [words first isFirst.1 isFirst, words second isSecond.1 isSecond]

/-- Two creatures that were added at the same time each take themselves for the oldest. -/
theorem firstWordOfOldest_differs :
    let first : Creature := { id := 1, name := "Alpha One", added := some ⟨0, 0⟩ }
    let second : Creature := { id := 2, name := "Beta Two", added := some ⟨0, 0⟩ }
    let context (creature : Creature) : Context :=
      { creature, siblings := [first, second], now := ⟨⟨0, 0⟩, 0⟩, random := fun _ => "000000" }
    ([first, second].map Creature.id).Nodup ∧
      (context first).Shows .firstWordOfOldest "Alpha" ∧
      (context second).Shows .firstWordOfOldest "Beta" := by
  intro first second context
  have shows (creature : Creature) : (context creature).Shows .firstWordOfOldest
      (context creature).firstWordOfOldest := (context creature).shows_value nofun nofun
  have alpha : (context first).firstWordOfOldest = "Alpha" := by decide
  have beta : (context second).firstWordOfOldest = "Beta" := by decide
  exact ⟨by decide, alpha ▸ shows first, beta ▸ shows second⟩

end CreatureNaming
