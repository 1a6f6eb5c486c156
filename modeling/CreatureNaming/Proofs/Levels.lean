import CreatureNaming.Levels
import Mathlib.Data.List.Induction
import Mathlib.Data.List.Perm.Basic

/-! What a best level and its runner-up know of a species.

An extreme is built in one pass over all levels. It knows the best of them, and for each creature
that has at most one level among them the best of all others. Of a creature that has more of them it
leaves out one only, so that it is then compared with itself.
-/

set_option autoImplicit false

namespace CreatureNaming

/-- A way to compare levels that puts any two different ones in order. -/
structure Ranks (better : Int → Int → Bool) : Prop where
  asymm : ∀ {first second}, better first second = true → better second first = false
  trans : ∀ {first second third},
    better first second = true → better second third = true → better first third = true
  eq : ∀ {first second},
    better first second = false → better second first = false → first = second

theorem ranks_higher : Ranks fun first second => second < first := by
  constructor <;> simp only [decide_eq_true_eq, decide_eq_false_iff_not] <;> omega

theorem ranks_lower : Ranks fun first second => first < second := by
  constructor <;> simp only [decide_eq_true_eq, decide_eq_false_iff_not] <;> omega

variable {better : Int → Int → Bool} {levels others : List Int}

theorem Ranks.irrefl (ranks : Ranks better) (level : Int) : better level level = false := by
  by_contra itself
  rw [Bool.not_eq_false] at itself
  cases itself.symm.trans (ranks.asymm itself)

/-- What does not beat a level does not beat a better one. -/
theorem Ranks.unbeaten (ranks : Ranks better) {level best other : Int}
    (above : better level best = true) (unbeaten : better other best = false) :
    better other level = false := by
  by_contra beaten
  rw [Bool.not_eq_false] at beaten
  cases unbeaten.symm.trans (ranks.trans beaten above)

/-! ## The best of some levels -/

def IsBest (better : Int → Int → Bool) (levels : List Int) : Option Int → Prop
  | none => levels = []
  | some best => best ∈ levels ∧ ∀ level ∈ levels, better level best = false

theorem IsBest.eq (ranks : Ranks better) {first second : Option Int}
    (isFirst : IsBest better levels first) (isSecond : IsBest better levels second) :
    first = second := by
  cases first with
  | none =>
    obtain rfl : levels = [] := isFirst
    cases second with
    | none => rfl
    | some second => cases isSecond.1
  | some first =>
    cases second with
    | none =>
      obtain rfl : levels = [] := isSecond
      cases isFirst.1
    | some second =>
      apply congrArg some
      exact ranks.eq (isSecond.2 first isFirst.1) (isFirst.2 second isSecond.1)

theorem IsBest.perm (same : levels.Perm others) {best : Option Int}
    (isBest : IsBest better levels best) : IsBest better others best := by
  cases best with
  | none =>
    obtain rfl : levels = [] := isBest
    exact same.nil_eq.symm
  | some best =>
    constructor
    · exact same.mem_iff.mp isBest.1
    · intro level member
      exact isBest.2 level (same.mem_iff.mpr member)

theorem isBest_head (ranks : Ranks better) {best : Int}
    (unbeaten : ∀ level ∈ levels, better level best = false) :
    IsBest better (best :: levels) (some best) := by
  constructor
  · exact List.mem_cons_self
  · exact List.forall_mem_cons.mpr ⟨ranks.irrefl best, unbeaten⟩

/-- With one more level, the best one is the better of that and the best one before. -/
theorem IsBest.cons (ranks : Ranks better) {best : Option Int} (isBest : IsBest better levels best)
    (level : Int) :
    IsBest better (level :: levels)
      (some (best.elim level fun best => if better level best then level else best)) := by
  cases best with
  | none =>
    obtain rfl : levels = [] := isBest
    exact isBest_head ranks (by simp)
  | some best =>
    simp only [Option.elim_some]
    split
    · next above =>
      apply isBest_head ranks
      intro other member
      exact ranks.unbeaten above (isBest.2 other member)
    · next notAbove =>
      rw [Bool.not_eq_true] at notAbove
      constructor
      · exact List.mem_cons_of_mem _ isBest.1
      · exact List.forall_mem_cons.mpr ⟨notAbove, isBest.2⟩

/-- What holds of a level holds of all that do not beat it. -/
def IsBound (better : Int → Int → Bool) (within : Int → Bool) : Prop :=
  ∀ level best, within best = true → better level best = false → within level = true

theorem isBound_below (level : Int) :
    IsBound (fun first second => second < first) (fun other => other < level) ∧
      IsBound (fun first second => second < first) fun other => other ≤ level := by
  constructor <;> intro other best <;>
    simp only [decide_eq_true_eq, decide_eq_false_iff_not] <;> omega

theorem isBound_above (level : Int) :
    IsBound (fun first second => first < second) (fun other => level < other) ∧
      IsBound (fun first second => first < second) fun other => level ≤ other := by
  constructor <;> intro other best <;>
    simp only [decide_eq_true_eq, decide_eq_false_iff_not] <;> omega

/-- Some levels keep a bound if the best of them does. -/
theorem IsBest.forall_iff {within : Int → Bool} (bound : IsBound better within)
    {best : Option Int} (isBest : IsBest better levels best) :
    (∀ level ∈ best, within level = true) ↔ ∀ level ∈ levels, within level = true := by
  cases best with
  | none =>
    obtain rfl : levels = [] := isBest
    simp
  | some best =>
    simp only [Option.mem_some_iff, forall_eq']
    constructor
    · intro kept level member
      exact bound level best kept (isBest.2 level member)
    · intro kept
      exact kept best isBest.1

theorem IsBest.max? {best : Option Int}
    (isBest : IsBest (fun first second => second < first) levels best) : best = levels.max? := by
  cases best with
  | none =>
    obtain rfl : levels = [] := isBest
    rfl
  | some best =>
    apply Eq.symm
    apply List.max?_eq_some_iff.mpr
    simpa [IsBest] using isBest

theorem IsBest.min? {best : Option Int}
    (isBest : IsBest (fun first second => first < second) levels best) : best = levels.min? := by
  cases best with
  | none =>
    obtain rfl : levels = [] := isBest
    rfl
  | some best =>
    apply Eq.symm
    apply List.min?_eq_some_iff.mpr
    simpa [IsBest] using isBest

/-! ## Extremes -/

namespace Extreme

/-- An extreme that was offered some levels holds one of them that no other one beats, and the
best of the others. -/
inductive Describes (better : Int → Int → Bool) : Extreme → List (Int × CreatureId) → Prop where
  | nothing : Describes better {} []
  | best {levels others : List (Int × CreatureId)} {best : Int} {holder : CreatureId}
      {runnerUp : Option Int} (all : levels.Perm ((best, holder) :: others))
      (unbeaten : ∀ level ∈ others, better level.1 best = false)
      (second : IsBest better (others.map Prod.fst) runnerUp) :
      Describes better ⟨some (best, holder), runnerUp⟩ levels

variable {extreme : Extreme} {levels : List (Int × CreatureId)}

theorem Describes.offer (ranks : Ranks better) (describes : extreme.Describes better levels)
    (level : Int) (id : CreatureId) :
    (extreme.offer better level id).Describes better (levels ++ [(level, id)]) := by
  cases describes with
  | nothing => exact .best (.refl _) (by simp) rfl
  | @best _ others best holder runnerUp all unbeaten second =>
    have added : (levels ++ [(level, id)]).Perm ((level, id) :: (best, holder) :: others) :=
      (List.perm_append_singleton (level, id) levels).trans (all.cons _)
    cases above : better level best with
    | true =>
      -- The best level so far becomes the runner-up.
      have offered : Extreme.offer better ⟨some (best, holder), runnerUp⟩ level id =
          ⟨some (level, id), some best⟩ := by
        simp [Extreme.offer, above]
      rw [offered]
      apply Describes.best added
      · refine List.forall_mem_cons.mpr ⟨ranks.asymm above, ?_⟩
        intro other member
        exact ranks.unbeaten above (unbeaten other member)
      · exact isBest_head ranks (List.forall_mem_map.mpr unbeaten)
    | false =>
      have offered : Extreme.offer better ⟨some (best, holder), runnerUp⟩ level id =
          ⟨some (best, holder),
            some (runnerUp.elim level fun second =>
              if better level second then level else second)⟩ := by
        cases runnerUp <;> simp [Extreme.offer, above]
      rw [offered]
      apply Describes.best (added.trans (.swap _ _ _))
      · exact List.forall_mem_cons.mpr ⟨above, unbeaten⟩
      · exact second.cons ranks level

theorem extreme_describes (ranks : Ranks better) (levels : List (Int × CreatureId)) :
    (SpeciesLevels.extreme better levels).Describes better levels := by
  induction levels using List.reverseRecOn with
  | nil => exact .nothing
  | append_singleton levels last ih =>
    rw [SpeciesLevels.extreme, List.foldl_append]
    exact ih.offer ranks last.1 last.2

/-- Where a creature has at most one level, the best level of all others is known. -/
theorem Describes.excluding (ranks : Ranks better) (describes : extreme.Describes better levels)
    {id : CreatureId} (single : (levels.filter fun level => level.2 == id).length ≤ 1) :
    IsBest better ((levels.filter fun level => level.2 != id).map Prod.fst)
      (extreme.excluding id) := by
  cases describes with
  | nothing => rfl
  | @best _ others best holder runnerUp all unbeaten second =>
    refine IsBest.perm ((all.filter fun level => level.2 != id).map Prod.fst).symm ?_
    by_cases own : holder = id
    · -- The creature's one level is the best one, so all others belong to other creatures.
      subst own
      have count := (all.filter fun level => level.2 == holder).length_eq
      rw [List.filter_cons_of_pos (by simp), List.length_cons] at count
      have nothing : others.filter (fun level => level.2 == holder) = [] :=
        List.eq_nil_of_length_eq_zero (by omega)
      have rest : others.filter (fun level => level.2 != holder) = others := by
        apply List.filter_eq_self.mpr
        intro level member
        simpa using List.filter_eq_nil_iff.mp nothing level member
      simpa [excluding, rest] using second
    · rw [List.filter_cons_of_pos (by simpa using own)]
      simp only [excluding, if_neg own]
      refine isBest_head ranks (List.forall_mem_map.mpr ?_)
      intro level member
      exact unbeaten level (List.mem_filter.mp member).1

/-- The value of an extreme is the best of all levels. -/
theorem Describes.value (ranks : Ranks better) (describes : extreme.Describes better levels) :
    IsBest better (levels.map Prod.fst) extreme.value := by
  cases describes with
  | nothing => rfl
  | best all unbeaten second =>
    refine IsBest.perm (all.map Prod.fst).symm ?_
    exact isBest_head ranks (List.forall_mem_map.mpr unbeaten)

/-- The runner-up keeps a bound just if all levels of others than the holder do, and all of the
holder's own but one. -/
theorem forall_runnerUp_iff {within : Int → Bool} (bound : IsBound better within) {best : Int}
    (holder : CreatureId) {runnerUp : Option Int}
    (unbeaten : ∀ level ∈ levels, better level.1 best = false)
    (second : IsBest better (levels.map Prod.fst) runnerUp) :
    (∀ level ∈ runnerUp, within level = true) ↔
      (∀ level ∈ levels, level.2 ≠ holder → within level.1 = true) ∧
        ((best, holder) :: levels).countP (fun level => level.2 == holder && !within level.1) ≤
          1 := by
  rw [second.forall_iff bound, List.forall_mem_map, List.countP_cons]
  constructor
  · intro kept
    refine ⟨fun level member _ => kept level member, ?_⟩
    rw [List.countP_eq_zero.mpr fun level member => by simp [kept level member]]
    split <;> omega
  · rintro ⟨foreign, single⟩ level member
    by_contra beyond
    by_cases own : level.2 = holder
    · -- The best level is then beyond the bound as well, so there are two of the holder's own.
      have bestBeyond : within best = false :=
        Bool.not_eq_true _ ▸ fun kept => beyond (bound _ _ kept (unbeaten level member))
      have counted := List.countP_pos_iff
        (p := fun level => level.2 == holder && !within level.1).mpr
          ⟨level, member, by simp [own, beyond]⟩
      rw [if_pos (by simp [bestBeyond])] at single
      omega
    · exact beyond (foreign level member own)

/-- Of the levels that have a creature's number, an extreme leaves out the best one only. So what is
left keeps a bound just if all other levels do, and all of the creature's own but one. -/
theorem Describes.forall_excluding_iff {within : Int → Bool} (bound : IsBound better within)
    (describes : extreme.Describes better levels) (id : CreatureId) :
    (∀ best ∈ extreme.excluding id, within best = true) ↔
      (∀ level ∈ levels, level.2 ≠ id → within level.1 = true) ∧
        levels.countP (fun level => level.2 == id && !within level.1) ≤ 1 := by
  cases describes with
  | nothing =>
    have none : Extreme.excluding {} id = none := rfl
    simp [none]
  | @best _ others best holder runnerUp all unbeaten second =>
    rw [all.countP_eq]
    simp only [all.mem_iff, List.forall_mem_cons]
    by_cases own : holder = id
    · subst own
      have excluded : Extreme.excluding ⟨some (best, holder), runnerUp⟩ holder = runnerUp :=
        if_pos rfl
      rw [excluded, forall_runnerUp_iff bound holder unbeaten second]
      simp
    · have excluded : Extreme.excluding ⟨some (best, holder), runnerUp⟩ id = some best :=
        if_neg own
      rw [excluded]
      simp only [Option.mem_some_iff, forall_eq']
      constructor
      · intro kept
        have all : ∀ level ∈ others, within level.1 = true := fun level member =>
          bound level.1 best kept (unbeaten level member)
        refine ⟨⟨fun _ => kept, fun level member _ => all level member⟩, ?_⟩
        rw [List.countP_cons, List.countP_eq_zero.mpr fun level member => by simp [all level member]]
        simp [own]
      · rintro ⟨⟨kept, -⟩, -⟩
        exact kept own

end Extreme

namespace SpeciesLevels

variable {creatures : List Creature}

theorem counted_filter (keeps : CreatureId → Bool) (creatures : List Creature) (stat : Stat) :
    (counted creatures stat).filter (fun level => keeps level.2) =
      counted (creatures.filter fun creature => keeps creature.id) stat := by
  induction creatures with
  | nil => rfl
  | cons creature rest ih =>
    unfold counted at ih ⊢
    rw [List.filterMap_cons, List.filter_cons]
    split
    · next none =>
      rw [ih]
      split
      · rw [List.filterMap_cons, none]
      · rfl
    · next level found =>
      have id : level.2 = creature.id := by
        split at found
        · obtain ⟨_, -, rfl⟩ := Option.map_eq_some_iff.mp found
          rfl
        · cases found
      rw [List.filter_cons, id, ih]
      split
      · rw [List.filterMap_cons, found]
      · rfl

/-- Where a creature has at most one known level that counts, the best of all others is known. -/
theorem isBest_excluding (ranks : Ranks better) {id : CreatureId} (stat : Stat)
    (single : (counted (creatures.filter fun creature => creature.id == id) stat).length ≤ 1) :
    IsBest better
      ((counted (creatures.filter fun creature => creature.id != id) stat).map Prod.fst)
      ((extreme better (counted creatures stat)).excluding id) := by
  rw [← counted_filter (· == id)] at single
  rw [← counted_filter (· != id)]
  exact (Extreme.extreme_describes ranks _).excluding ranks single

/-- The best level of all others does not depend on what is known of the creature itself. -/
theorem excluding_congr (ranks : Ranks better) {id : CreatureId} {first second : List Creature}
    (firstSingle : (first.filter fun creature => creature.id == id).length ≤ 1)
    (secondSingle : (second.filter fun creature => creature.id == id).length ≤ 1)
    (others : (first.filter fun creature => creature.id != id) =
      second.filter fun creature => creature.id != id) (stat : Stat) :
    (extreme better (counted first stat)).excluding id =
      (extreme better (counted second stat)).excluding id := by
  have firstBest := isBest_excluding ranks stat
    (Nat.le_trans (List.length_filterMap_le _ _) firstSingle)
  have secondBest := isBest_excluding ranks stat
    (Nat.le_trans (List.length_filterMap_le _ _) secondSingle)
  rw [others] at firstBest
  exact firstBest.eq ranks secondBest

/-! ## Maximum and minimum -/

/-- The known levels of the creatures that count. -/
def known (creatures : List Creature) (stat : Stat) : List Int :=
  (creatures.filter Creature.counts).filterMap fun creature => creature.level stat

theorem map_counted (creatures : List Creature) (stat : Stat) :
    (counted creatures stat).map Prod.fst = known creatures stat := by
  unfold counted known
  induction creatures with
  | nil => rfl
  | cons creature rest ih =>
    rw [List.filterMap_cons, List.filter_cons]
    cases creature.counts with
    | false => exact ih
    | true =>
      simp only [if_true, List.filterMap_cons]
      cases creature.level stat with
      | none => exact ih
      | some level => exact congrArg (level :: ·) ih

theorem isBest_value (ranks : Ranks better) (creatures : List Creature) (stat : Stat) :
    IsBest better (known creatures stat) (extreme better (counted creatures stat)).value := by
  rw [← map_counted]
  exact (Extreme.extreme_describes ranks _).value ranks

/-- The top and lowest levels are the maximum and minimum of the known levels that count; and for a
number that at most one of the creatures has whose levels those are, the top and lowest levels of all
others are theirs. -/
theorem compute_known (creatures : List Creature) (stat : Stat) :
    let levels := compute creatures
    levels.top stat = (known creatures stat).max? ∧
      levels.lowest stat = (known creatures stat).min? ∧
      ∀ id, (known (creatures.filter fun creature => creature.id == id) stat).length ≤ 1 →
        let others := known (creatures.filter fun creature => creature.id != id) stat
        levels.topExcluding stat id = others.max? ∧
          levels.lowestExcluding stat id = others.min? := by
  intro levels
  refine ⟨(isBest_value ranks_higher creatures stat).max?,
    (isBest_value ranks_lower creatures stat).min?, fun id single => ?_⟩
  simp only [← map_counted, List.length_map] at single ⊢
  constructor
  · exact (isBest_excluding ranks_higher stat single).max?
  · exact (isBest_excluding ranks_lower stat single).min?

/-- Two creatures share the top level, a third has no known one, and a dead one does not count. -/
theorem compute_known_shared :
    let creatures : List Creature :=
      [{ id := 1, wildLevels := [30] }, { id := 2, wildLevels := [45] },
        { id := 1, wildLevels := [-1] }, { id := 3, wildLevels := [45] },
        { id := 4, wildLevels := [99], status := .dead }]
    let levels := compute creatures
    let others := known (creatures.filter fun creature => creature.id != 2) .health
    (known (creatures.filter fun creature => creature.id == 2) .health).length ≤ 1 ∧
      others = [30, 45] ∧ levels.topExcluding .health 2 = others.max? ∧
      levels.lowestExcluding .health 2 = others.min? := by
  intro creatures levels others
  have single : (known (creatures.filter fun creature => creature.id == 2) .health).length ≤ 1 := by
    decide
  exact ⟨single, by decide, (compute_known creatures .health).2.2 2 single⟩

end SpeciesLevels

end CreatureNaming
