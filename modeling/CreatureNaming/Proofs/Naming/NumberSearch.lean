import CreatureNaming.Naming.Outcome
import CreatureNaming.Proofs.Naming.NumberUse

/-! The search for a number that makes a name unique.

The search skips work where no number is rendered. It is compared here with one that does not:
the candidates of all numbers up to the limit, each rendered on its own, of which the first free
one is chosen.
-/

set_option autoImplicit false

namespace CreatureNaming

/-- The outcome takes the first of some candidates that is free, or the last one if none is. -/
structure Outcome.Chooses (isTaken : String → Prop) (candidate : Nat → Rendered)
    (first last : Nat) (outcome : Outcome) (number : Nat) : Prop where
  fromFirst : first ≤ number
  toLast : number ≤ last
  takenBefore : ∀ earlier, first ≤ earlier → earlier < number → isTaken (candidate earlier).text
  freeOrLast : ¬isTaken (candidate number).text ∨ number = last
  name : outcome.name = (candidate number).text
  uniqueNumber : outcome.uniqueNumber = if (candidate number).usesNumber then some number else none
  exhausted : outcome.exhausted = true ↔ (candidate number).usesNumber = true ∧
    ∀ other, first ≤ other → other ≤ last → isTaken (candidate other).text

/-- A candidate that is taken can be put before the others. -/
theorem Outcome.Chooses.behind {isTaken : String → Prop} {candidate : Nat → Rendered}
    {first last number : Nat} {outcome : Outcome} (taken : isTaken (candidate first).text)
    (chooses : outcome.Chooses isTaken candidate (first + 1) last number) :
    outcome.Chooses isTaken candidate first last number := by
  refine { chooses with fromFirst := ?_, takenBefore := ?_, exhausted := ?_ }
  · exact Nat.le_of_succ_le chooses.fromFirst
  · intro earlier atLeast before
    rcases Nat.eq_or_lt_of_le atLeast with rfl | later
    · exact taken
    · exact chooses.takenBefore earlier later before
  · rw [chooses.exhausted]
    apply and_congr_right
    intro _
    constructor
    · intro all other atLeast atMost
      rcases Nat.eq_or_lt_of_le atLeast with rfl | later
      · exact taken
      · exact all other later atMost
    · intro all other later atMost
      exact all other (Nat.le_of_succ_le later) atMost

namespace Context

variable {context : Context} {nodes : List Pattern.Node}

/-- Another creature bears this name. -/
def IsTaken (context : Context) (name : String) : Prop :=
  name ≠ "" ∧ ∃ other ∈ context.siblings, other.id ≠ context.creature.id ∧ other.name = name

theorem contains_taken (context : Context) (name : String) :
    context.taken.contains name = true ↔ context.IsTaken name := by
  simp only [List.contains_iff_mem, taken, others, IsTaken, List.mem_filter, List.mem_map]
  constructor
  · rintro ⟨⟨other, ⟨member, different⟩, rfl⟩, named⟩
    exact ⟨by simpa using named, other, member, by simpa using different, rfl⟩
  · rintro ⟨named, other, member, different, rfl⟩
    exact ⟨⟨other, ⟨member, by simpa using different⟩, rfl⟩, by simpa using named⟩

/-- Render with a number, or with its placeholder. -/
def renderOnce (context : Context) (number : Option Nat) (nodes : List Pattern.Node) : String :=
  (context.render (number.elim .placeholder .number) nodes).text

/-! ## Candidates that use the number -/

theorem searchFrom_free {number : Nat} (more : Nat)
    (used : (context.render (.number number) nodes).usesNumber = true)
    (free : ¬context.IsTaken (context.render (.number number) nodes).text) :
    context.searchFrom nodes context.taken number more =
      { name := (context.render (.number number) nodes).text, uniqueNumber := some number } := by
  rw [← contains_taken, Bool.not_eq_true] at free
  rw [searchFrom.eq_def]
  simp only [used, free]
  rfl

theorem searchFrom_chooses_free {number : Nat} (more : Nat)
    (used : (context.render (.number number) nodes).usesNumber = true)
    (free : ¬context.IsTaken (context.render (.number number) nodes).text) :
    (context.searchFrom nodes context.taken number more).Chooses context.IsTaken
      (fun number => context.render (.number number) nodes) number (number + more) number := by
  rw [searchFrom_free more used free]
  refine ⟨Nat.le_refl _, Nat.le_add_right _ _, by omega, .inl free, rfl, by simp [used], ?_⟩
  refine ⟨nofun, fun all => ?_⟩
  exact absurd (all.2 number (Nat.le_refl _) (Nat.le_add_right _ _)) free

theorem searchFrom_last {number : Nat}
    (used : (context.render (.number number) nodes).usesNumber = true)
    (taken : context.IsTaken (context.render (.number number) nodes).text) :
    context.searchFrom nodes context.taken number 0 =
      { name := (context.render (.number number) nodes).text
        uniqueNumber := some number
        exhausted := true } := by
  rw [← contains_taken] at taken
  rw [searchFrom]
  simp only [used, taken]
  rfl

theorem searchFrom_next {number : Nat} (more : Nat)
    (used : (context.render (.number number) nodes).usesNumber = true)
    (taken : context.IsTaken (context.render (.number number) nodes).text) :
    context.searchFrom nodes context.taken number (more + 1) =
      context.searchFrom nodes context.taken (number + 1) more := by
  rw [← contains_taken] at taken
  rw [searchFrom]
  simp only [used, taken]
  rfl

/-- While every rendering uses the number, the search goes through the candidates in order. -/
theorem searchFrom_used (used : ∀ number, (context.render (.number number) nodes).usesNumber = true)
    (number more : Nat) :
    ∃ chosen, (context.searchFrom nodes context.taken number more).Chooses context.IsTaken
      (fun number => context.render (.number number) nodes) number (number + more) chosen := by
  induction more generalizing number with
  | zero =>
    by_cases taken : context.IsTaken (context.render (.number number) nodes).text
    · -- The last number is kept even though its name is taken.
      rw [searchFrom_last (used number) taken]
      refine ⟨number, Nat.le_refl _, Nat.le_refl _, by omega, .inr rfl, rfl,
        by simp [used number], ?_⟩
      refine ⟨fun _ => ⟨used number, fun other atLeast atMost => ?_⟩, fun _ => rfl⟩
      cases Nat.le_antisymm atLeast atMost
      exact taken
    · exact ⟨number, searchFrom_chooses_free 0 (used number) taken⟩
  | succ more ih =>
    by_cases taken : context.IsTaken (context.render (.number number) nodes).text
    · obtain ⟨chosen, chooses⟩ := ih (number + 1)
      rw [Nat.add_right_comm] at chooses
      rw [searchFrom_next more (used number) taken]
      exact ⟨chosen, chooses.behind taken⟩
    · exact ⟨number, searchFrom_chooses_free (more + 1) (used number) taken⟩

theorem generate_used (used : (context.render (.number 1) nodes).usesNumber = true) {more : Nat}
    (limit : context.searchLimit = more + 1) :
    context.generate nodes =
      { context.searchFrom nodes context.taken 1 more with
        tooLong :=
          context.isTooLong (context.searchFrom nodes context.taken 1 more).name } := by
  have mentioned : Pattern.mentions "n" nodes = true := by
    cases mentioned : Pattern.mentions "n" nodes with
    | true => rfl
    | false =>
      rw [context.render_unmentioned _ mentioned] at used
      cases used
  simp only [generate, mentioned, if_true, search, limit]

/-! ## Candidates that do not use it -/

theorem generate_unused (unused : ∀ unique, (context.render unique nodes).usesNumber = false)
    (same : ∀ unique, (context.render unique nodes).text = (context.render .placeholder nodes).text)
    (searches : 0 < context.searchLimit) :
    context.generate nodes =
      { name := (context.render .placeholder nodes).text
        duplicate := context.taken.contains (context.render .placeholder nodes).text
        tooLong := context.isTooLong (context.render .placeholder nodes).text } := by
  obtain ⟨more, limit⟩ := Nat.exists_eq_succ_of_ne_zero (Nat.pos_iff_ne_zero.mp searches)
  unfold generate
  split
  · simp only [search, limit]
    rw [searchFrom.eq_def]
    simp [unused, same]
  · rfl

theorem generate_unused_chooses
    (unused : ∀ unique, (context.render unique nodes).usesNumber = false)
    (same : ∀ unique, (context.render unique nodes).text = (context.render .placeholder nodes).text)
    (searches : 0 < context.searchLimit) :
    ∃ chosen, (context.generate nodes).Chooses context.IsTaken
      (fun number => context.render (.number number) nodes) 1 context.searchLimit chosen := by
  rw [generate_unused unused same searches]
  -- All candidates have the same text, so it is the first one or, if that is taken, the last.
  by_cases taken : context.IsTaken (context.render .placeholder nodes).text
  · refine ⟨context.searchLimit, searches, Nat.le_refl _, fun _ _ _ => ?_, .inr rfl, ?_, ?_, ?_⟩
    · rwa [same]
    · exact (same _).symm
    · simp [unused]
    · simp [unused]
  · refine ⟨1, Nat.le_refl _, searches, by omega, .inl ?_, ?_, ?_, ?_⟩
    · rwa [same]
    · exact (same _).symm
    · simp [unused]
    · simp [unused]

/-! ## What the outcome depends on -/

theorem searchFrom_congr {first second : Context}
    (renders : ∀ unique, first.render unique nodes = second.render unique nodes)
    (taken : List String) (number more : Nat) :
    first.searchFrom nodes taken number more = second.searchFrom nodes taken number more := by
  induction more generalizing number with
  | zero =>
    unfold searchFrom
    rw [renders]
  | succ more ih =>
    unfold searchFrom
    simp only [renders, ih (number + 1)]

/-- The outcome depends on the renderings, on the names that are taken, and on the limits. -/
theorem generate_congr {first second : Context}
    (renders : ∀ unique, first.render unique nodes = second.render unique nodes)
    (taken : first.taken = second.taken) (settings : first.settings = second.settings)
    (mode : first.mode = second.mode) : first.generate nodes = second.generate nodes := by
  have limit : first.searchLimit = second.searchLimit := by
    unfold searchLimit
    rw [settings, mode]
  have search : first.search nodes second.taken = second.search nodes second.taken := by
    unfold Context.search
    simp only [limit, renders, searchFrom_congr renders]
  have tooLong : first.isTooLong = second.isTooLong := by
    funext name
    unfold isTooLong
    rw [settings]
  unfold generate
  simp only [taken, search, tooLong, renders]

/-- A name without random digits does not depend on them. -/
theorem generate_redrawn (context : Context) (random : Nat → String)
    (fixed : Pattern.mentions "rnd" nodes = false) :
    (context.redrawn random).generate nodes = context.generate nodes :=
  generate_congr (fun unique => context.render_redrawn random unique fixed) rfl rfl rfl

/-! ## The search -/

theorem usesNumber_uniform (fixed : Pattern.mentions "rnd" nodes = false) (u v : Unique) :
    (context.render u nodes).usesNumber = (context.render v nodes).usesNumber :=
  (context.render_redrawn_agrees context.random context.random u v fixed).1

/-- The outcome is that of a search without shortcuts: the name is the first free candidate up to
the limit, or the last one. A number is reported if it is part of the name, and it gives the name
again. -/
theorem generate_eq_search (context : Context) (nodes : List Pattern.Node)
    (draws : Nat → Nat → String) (again : Nat → String)
    (fixed : Pattern.mentions "rnd" nodes = false) (searches : 0 < context.searchLimit) :
    let candidate := fun number => (context.redrawn (draws number)).render (.number number) nodes
    let outcome := context.generate nodes
    (∃ number, outcome.Chooses context.IsTaken candidate 1 context.searchLimit number) ∧
      (outcome.uniqueNumber = none ↔
        ∀ unique, ((context.redrawn again).render unique nodes).usesNumber = false) ∧
      (context.redrawn again).renderOnce outcome.uniqueNumber nodes = outcome.name := by
  simp only [renderOnce, render_redrawn _ _ _ fixed]
  cases used : (context.render (.number 1) nodes).usesNumber with
  | true =>
    have usedAll : ∀ number, (context.render (.number number) nodes).usesNumber = true :=
      fun number => by rw [usesNumber_uniform fixed _ (.number 1), used]
    obtain ⟨more, limit⟩ := Nat.exists_eq_succ_of_ne_zero (Nat.pos_iff_ne_zero.mp searches)
    obtain ⟨number, chooses⟩ := searchFrom_used usedAll 1 more
    have reported := chooses.uniqueNumber
    rw [if_pos (usedAll number)] at reported
    rw [Nat.add_comm, ← Nat.succ_eq_add_one, ← limit] at chooses
    rw [generate_used used limit]
    refine ⟨⟨number, { chooses with }⟩, ?_, ?_⟩
    · refine ⟨fun unreported => ?_, fun unused => ?_⟩
      · cases reported.symm.trans unreported
      · cases used.symm.trans (unused (.number 1))
    · rw [reported]
      exact chooses.name.symm
  | false =>
    have unused : ∀ unique, (context.render unique nodes).usesNumber = false :=
      fun unique => by rw [usesNumber_uniform fixed _ (.number 1), used]
    have same : ∀ unique,
        (context.render unique nodes).text = (context.render .placeholder nodes).text :=
      fun unique => (context.render_redrawn_agrees context.random context.random unique .placeholder
        fixed).2 (.inr (unused unique))
    refine ⟨generate_unused_chooses unused same searches, ?_, ?_⟩
    · rw [generate_unused unused same searches]
      exact ⟨fun _ => unused, fun _ => rfl⟩
    · rw [generate_unused unused same searches]
      rfl

/-- Another creature has the name with the first number. -/
theorem generate_eq_search_secondNumber :
    let context : Context :=
      { creature := { id := 2 }
        siblings := [{ id := 1, name := "Rex_1" }, { id := 2 }]
        now := ⟨⟨0, 0⟩, 0⟩
        random := fun _ => "000000" }
    let nodes : List Pattern.Node := [.literal ⟨0, 4⟩ "Rex_", .token ⟨4, 7⟩ "n"]
    let candidate := fun number =>
      (context.redrawn fun _ => "111111").render (.number number) nodes
    let outcome := context.generate nodes
    Pattern.mentions "rnd" nodes = false ∧ 0 < context.searchLimit ∧
      (∃ number, outcome.Chooses context.IsTaken candidate 1 context.searchLimit number) ∧
      (outcome.uniqueNumber = none ↔
        ∀ unique, ((context.redrawn fun _ => "222222").render unique nodes).usesNumber = false) ∧
      (context.redrawn fun _ => "222222").renderOnce outcome.uniqueNumber nodes = outcome.name := by
  intro context nodes candidate outcome
  have fixed : Pattern.mentions "rnd" nodes = false := by decide
  have searches : 0 < context.searchLimit := by decide
  exact ⟨fixed, searches,
    generate_eq_search context nodes (fun _ _ => "111111") (fun _ => "222222") fixed searches⟩

end Context

end CreatureNaming
