import CreatureNaming.Proofs.Levels
import CreatureNaming.Proofs.Token.Shown

/-! Tokens that compare a creature's level with those of the others.

The others are the siblings with other numbers, but the level compared with comes from all siblings,
and only one level with the creature's own number is left out of it. So a creature is marked just if
all others are behind it and, of the siblings with its own number, all but one are.
-/

set_option autoImplicit false

namespace CreatureNaming

/-- The level with which a creature counts for its species. -/
def Creature.countedLevel (creature : Creature) (stat : Stat) : Option Int :=
  if creature.counts then creature.level stat else none

/-- The tokens that compare levels of a stat, each with the levels that are behind another one. -/
def Token.levelComparisons (stat : Stat) : List (Token × (Int → Int → Bool)) :=
  [(.isNewTop stat, fun other level => other < level),
    (.isTop stat, fun other level => other ≤ level),
    (.isNewLowest stat, fun other level => level < other),
    (.isLowest stat, fun other level => level ≤ other)]

namespace SpeciesLevels

variable {creatures : List Creature} {stat : Stat}

theorem counted_eq (creatures : List Creature) (stat : Stat) :
    counted creatures stat = creatures.filterMap fun creature =>
      (creature.countedLevel stat).map fun level => (level, creature.id) := by
  unfold counted Creature.countedLevel
  congr 1
  funext creature
  split <;> rfl

theorem forall_counted_iff (id : CreatureId) (within : Int → Bool) :
    (∀ level ∈ counted creatures stat, level.2 ≠ id → within level.1 = true) ↔
      ∀ other ∈ creatures.filter (fun other => other.id != id),
        ∀ theirs ∈ other.countedLevel stat, within theirs = true := by
  simp only [counted_eq, List.mem_filterMap, Option.map_eq_some_iff, List.mem_filter, bne_iff_ne]
  constructor
  · rintro kept other ⟨member, foreign⟩ theirs counts
    exact kept (theirs, other.id) ⟨other, member, theirs, counts, rfl⟩ foreign
  · rintro kept _ ⟨other, member, theirs, counts, rfl⟩ foreign
    exact kept other ⟨member, foreign⟩ theirs counts

theorem countP_counted (id : CreatureId) (beyond : Int → Bool) :
    (counted creatures stat).countP (fun level => level.2 == id && beyond level.1) =
      creatures.countP fun creature =>
        creature.id == id && (creature.countedLevel stat).any beyond := by
  rw [counted_eq, List.countP_filterMap]
  apply List.countP_congr
  intro creature _
  cases creature.countedLevel stat <;> simp

end SpeciesLevels

namespace Context

variable {context : Context} {stat : Stat} {token : Token} {behind : Int → Int → Bool}

/-- The creature's level is known and of use to its species, and all other creatures that count are
behind it. -/
def Leads (context : Context) (stat : Stat) (behind : Int → Int → Bool) : Prop :=
  ∃ level ∈ context.level stat, ∀ other ∈ context.others,
    ∀ theirs ∈ other.countedLevel stat, behind theirs level = true

/-- At most one sibling with the creature's own number has a level that counts and is not behind the
creature's. -/
def OwnBehind (context : Context) (stat : Stat) (behind : Int → Int → Bool) : Prop :=
  ∀ level ∈ context.level stat, (context.siblings.countP fun sibling =>
    sibling.id == context.creature.id &&
      (sibling.countedLevel stat).any fun theirs => !behind theirs level) ≤ 1

/-- At most one sibling with the creature's own number has a level that counts. -/
def CountsOnce (context : Context) (stat : Stat) : Prop :=
  (context.siblings.countP fun sibling =>
    sibling.id == context.creature.id && (sibling.countedLevel stat).isSome) ≤ 1

instance (context : Context) (stat : Stat) : Decidable (context.CountsOnce stat) :=
  inferInstanceAs (Decidable (_ ≤ _))

/-- A token shows the digit one if something holds, and otherwise nothing. -/
def Marks (context : Context) (token : Token) (holds : Prop) : Prop :=
  (holds → context.Shows token "1") ∧ (¬holds → context.Shows token "")

theorem CountsOnce.ownBehind (once : context.CountsOnce stat) : context.OwnBehind stat behind := by
  intro level _
  refine Nat.le_trans (List.countP_mono_left fun sibling _ own => ?_) once
  rw [Bool.and_eq_true] at own ⊢
  refine ⟨own.1, ?_⟩
  cases counted : sibling.countedLevel stat with
  | none => simp [counted] at own
  | some theirs => rfl

/-- A level compares well with the best level of all siblings but the creature just if the others
are behind it, and its own entries among the siblings but one. -/
theorem comparesWell_excluding_iff {better : Int → Int → Bool} (ranks : Ranks better)
    (bound : ∀ level, IsBound better fun theirs => behind theirs level) :
    context.comparesWell stat
        ((SpeciesLevels.extreme better
          (SpeciesLevels.counted context.siblings stat)).excluding context.creature.id)
        (fun level theirs => behind theirs level) = true ↔
      context.Leads stat behind ∧ context.OwnBehind stat behind := by
  have describes := Extreme.extreme_describes ranks (SpeciesLevels.counted context.siblings stat)
  unfold comparesWell Leads OwnBehind
  cases context.level stat with
  | none => simp
  | some level =>
    have kept := describes.forall_excluding_iff (bound level) context.creature.id
    rw [SpeciesLevels.forall_counted_iff _ fun theirs => behind theirs level,
      SpeciesLevels.countP_counted _ fun theirs => !behind theirs level] at kept
    simp only [Option.mem_some_iff, exists_eq_left', forall_eq']
    refine Iff.trans ?_ kept
    split
    · next none => simp [none]
    · next best found => simp [found]

theorem isTop_iff (ofSiblings : context.levels = .compute context.siblings)
    (bound : ∀ level, IsBound (fun first second => second < first) fun theirs => behind theirs level) :
    (context.isTop stat fun level theirs => behind theirs level) = true ↔
      context.Leads stat behind ∧ context.OwnBehind stat behind := by
  rw [isTop, ofSiblings]
  exact comparesWell_excluding_iff ranks_higher bound

theorem isLowest_iff (ofSiblings : context.levels = .compute context.siblings)
    (bound : ∀ level, IsBound (fun first second => first < second) fun theirs => behind theirs level) :
    (context.isLowest stat fun level theirs => behind theirs level) = true ↔
      context.Leads stat behind ∧ context.OwnBehind stat behind := by
  rw [isLowest, ofSiblings]
  exact comparesWell_excluding_iff ranks_lower bound

theorem marks_of_value {yes : Bool} {holds : Prop} (value : token.value context = mark yes)
    (decides : yes = true ↔ holds) (unnumbered : token ≠ .uniqueNumber)
    (known : token ≠ .random) : context.Marks token holds := by
  have shows := context.shows_value unnumbered known
  rw [value] at shows
  constructor
  · intro held
    rwa [decides.mpr held] at shows
  · intro failed
    rwa [Bool.eq_false_iff.mpr fun yes => failed (decides.mp yes)] at shows

/-- A creature is marked just if all others that count are behind it, and its own entries among the
siblings but one. So where at most one of those counts, it is compared with exactly the others. -/
theorem levelComparisons_mark (context : Context) (stat : Stat)
    (ofSiblings : context.levels = .compute context.siblings) :
    ∀ token behind, (token, behind) ∈ Token.levelComparisons stat →
      context.Marks token (context.Leads stat behind ∧ context.OwnBehind stat behind) ∧
        (context.CountsOnce stat → context.Marks token (context.Leads stat behind)) := by
  intro token behind compares
  have marks : context.Marks token (context.Leads stat behind ∧ context.OwnBehind stat behind) := by
    simp only [Token.levelComparisons, List.mem_cons, List.not_mem_nil, or_false,
      Prod.mk.injEq] at compares
    rcases compares with ⟨rfl, rfl⟩ | ⟨rfl, rfl⟩ | ⟨rfl, rfl⟩ | ⟨rfl, rfl⟩
    · apply marks_of_value rfl (isTop_iff ofSiblings fun level => (isBound_below level).1) <;> nofun
    · apply marks_of_value rfl (isTop_iff ofSiblings fun level => (isBound_below level).2) <;> nofun
    · apply marks_of_value rfl (isLowest_iff ofSiblings fun level => (isBound_above level).1) <;>
        nofun
    · apply marks_of_value rfl (isLowest_iff ofSiblings fun level => (isBound_above level).2) <;>
        nofun
  refine ⟨marks, fun once => ?_⟩
  have ownBehind : context.OwnBehind stat behind := once.ownBehind
  simpa [ownBehind] using marks

/-- The creature is listed twice, once as dead, and another one has its level. -/
theorem levelComparisons_mark_once :
    let context : Context :=
      { creature := { id := 1, wildLevels := [40] }
        siblings := [{ id := 1, wildLevels := [50], status := .dead },
          { id := 1, wildLevels := [40] }, { id := 2, wildLevels := [40] }]
        now := ⟨⟨0, 0⟩, 0⟩
        random := fun _ => "000000" }
    context.levels = .compute context.siblings ∧ context.CountsOnce .health ∧
      (.isTop .health, fun other level => decide (other ≤ level)) ∈
        Token.levelComparisons .health ∧
      context.Leads .health (fun other level => other ≤ level) ∧
      context.Shows (.isTop .health) "1" := by
  intro context
  have once : context.CountsOnce .health := by decide
  have leads : context.Leads .health fun other level => other ≤ level :=
    ⟨40, by decide, by decide⟩
  have compares : (.isTop .health, fun other level => decide (other ≤ level)) ∈
      Token.levelComparisons .health := by simp [Token.levelComparisons]
  have marks := (levelComparisons_mark context .health rfl _ _ compares).2 once
  exact ⟨rfl, once, compares, leads, marks.1 leads⟩

/-- A creature that is listed twice leads all others and yet is not marked, because it does not lead
its own other entry. -/
theorem levelComparisons_ownRunnerUp :
    let context : Context :=
      { creature := { id := 1, wildLevels := [40] }
        siblings := [{ id := 1, wildLevels := [50] }, { id := 1, wildLevels := [40] },
          { id := 2, wildLevels := [30] }]
        now := ⟨⟨0, 0⟩, 0⟩
        random := fun _ => "000000" }
    context.levels = .compute context.siblings ∧
      context.Leads .health (fun other level => other < level) ∧
      context.Shows (.isNewTop .health) "" := by
  intro context
  have leads : context.Leads .health fun other level => other < level :=
    ⟨40, by decide, by decide⟩
  have value : (Token.isNewTop .health).value context = "" := by decide
  have shows : context.Shows (.isNewTop .health) ((Token.isNewTop .health).value context) :=
    context.shows_value nofun nofun
  exact ⟨rfl, leads, value ▸ shows⟩

end Context

end CreatureNaming
