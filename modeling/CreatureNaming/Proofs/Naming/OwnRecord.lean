import CreatureNaming.Proofs.Levels
import CreatureNaming.Proofs.Naming.NumberSearch

/-! A creature's own record does not influence its new name.

Among the siblings may be an entry of the creature itself, with whatever was known of it before.
All that a pattern shows of others leaves it out: the list of the others by the creature's number,
and the best levels because they keep the runner-up. What remains are the tokens that speak of the
creature's own name or of its place among the siblings.
-/

set_option autoImplicit false

namespace CreatureNaming.Context

variable {first second : Context} {nodes : List Pattern.Node}

/-- Two contexts of the same creature that differ at most in its present name, in what the siblings
say of it, and in random digits. -/
structure AlikeButSelf (first second : Context) : Prop where
  creature : ∃ name, second.creature = { first.creature with name }
  others : second.others = first.others
  species : second.species = first.species
  colors : second.colors = first.colors
  replacements : second.replacements = first.replacements
  settings : second.settings = first.settings
  mode : second.mode = first.mode
  now : second.now = first.now

/-- The siblings list the creature at most once, and the levels are those of the siblings. -/
structure ListsSelfOnce (context : Context) : Prop where
  single : (context.siblings.filter fun other => other.id == context.creature.id).length ≤ 1
  levels : context.levels = .compute context.siblings

/-- The names of the tokens that show a creature's name or its place among the siblings, or random
digits. -/
def selfNames : List String := ["oldname", "firstWordOfOldest", "index", "rnd"]

namespace AlikeButSelf

theorem id (alike : AlikeButSelf first second) : second.creature.id = first.creature.id := by
  obtain ⟨name, same⟩ := alike.creature
  rw [same]

theorem usesStat (alike : AlikeButSelf first second) (stat : Stat) :
    second.usesStat stat = first.usesStat stat := by
  unfold Context.usesStat
  rw [alike.species]

theorem level (alike : AlikeButSelf first second) (stat : Stat) :
    second.level stat = first.level stat := by
  obtain ⟨name, same⟩ := alike.creature
  unfold Context.level
  rw [alike.usesStat, same]
  rfl

/-! ## Best levels -/

theorem excluding {better : Int → Int → Bool} (ranks : Ranks better)
    (alike : AlikeButSelf first second) (firstOnce : first.ListsSelfOnce)
    (secondOnce : second.ListsSelfOnce) (stat : Stat) :
    (SpeciesLevels.extreme better (SpeciesLevels.counted second.siblings stat)).excluding
        second.creature.id =
      (SpeciesLevels.extreme better (SpeciesLevels.counted first.siblings stat)).excluding
        first.creature.id := by
  have secondSingle := secondOnce.single
  have others := alike.others
  unfold Context.others at others
  rw [alike.id] at secondSingle others ⊢
  exact SpeciesLevels.excluding_congr ranks secondSingle firstOnce.single others stat

theorem topExcluding (alike : AlikeButSelf first second) (firstOnce : first.ListsSelfOnce)
    (secondOnce : second.ListsSelfOnce) (stat : Stat) :
    second.levels.topExcluding stat second.creature.id =
      first.levels.topExcluding stat first.creature.id := by
  rw [firstOnce.levels, secondOnce.levels]
  exact alike.excluding ranks_higher firstOnce secondOnce stat

theorem lowestExcluding (alike : AlikeButSelf first second) (firstOnce : first.ListsSelfOnce)
    (secondOnce : second.ListsSelfOnce) (stat : Stat) :
    second.levels.lowestExcluding stat second.creature.id =
      first.levels.lowestExcluding stat first.creature.id := by
  rw [firstOnce.levels, secondOnce.levels]
  exact alike.excluding ranks_lower firstOnce secondOnce stat

theorem isTop (alike : AlikeButSelf first second) (firstOnce : first.ListsSelfOnce)
    (secondOnce : second.ListsSelfOnce) (stat : Stat) (well : Int → Int → Bool) :
    second.isTop stat well = first.isTop stat well := by
  unfold Context.isTop comparesWell
  rw [alike.topExcluding firstOnce secondOnce, alike.level]

theorem isLowest (alike : AlikeButSelf first second) (firstOnce : first.ListsSelfOnce)
    (secondOnce : second.ListsSelfOnce) (stat : Stat) (well : Int → Int → Bool) :
    second.isLowest stat well = first.isLowest stat well := by
  unfold Context.isLowest comparesWell
  rw [alike.lowestExcluding firstOnce secondOnce, alike.level]

theorem consideredLevels (alike : AlikeButSelf first second) (firstOnce : first.ListsSelfOnce)
    (secondOnce : second.ListsSelfOnce) : second.consideredLevels = first.consideredLevels := by
  unfold Context.consideredLevels
  simp only [alike.settings, alike.level, alike.topExcluding firstOnce secondOnce]

/-! ## Tokens -/

theorem value (alike : AlikeButSelf first second) (firstOnce : first.ListsSelfOnce)
    (secondOnce : second.ListsSelfOnce) {token : Token}
    (blind : token ∉ [.oldName, .firstWordOfOldest, .index, .random]) :
    token.value second = token.value first := by
  obtain ⟨name, same⟩ := alike.creature
  cases token with
  | oldName | firstWordOfOldest | index | random => simp at blind
  | uniqueNumber => simp only [Token.value, alike.settings]
  | level stat => simp only [Token.value, alike.level]
  | breedingValue stat =>
    simp only [Token.value, breedingValueText, alike.usesStat, same]
    rfl
  | isTop stat | isNewTop stat => simp only [Token.value, alike.isTop firstOnce secondOnce]
  | isLowest stat | isNewLowest stat =>
    simp only [Token.value, alike.isLowest firstOnce secondOnce]
  | topPercent =>
    simp only [Token.value, topPercentText, alike.consideredLevels firstOnce secondOnce]
  | baseLevel => simp only [Token.value, baseLevel, funext alike.level]
  | highestLevel rank | highestStat rank =>
    simp only [Token.value, rankedLevels, funext alike.level]
  | generationCount | totalCount | sexCount => simp only [Token.value, alike.others, same]
  | numberInGeneration | numberInGenerationSex =>
    simp only [Token.value, alike.others, same]
    rfl
  | effectiveness | effectivenessShort | alreadyExists =>
    simp only [Token.value, same]
    rfl
  -- All other tokens show a field of the creature that is not its name.
  | _ => simp only [Token.value, same]

theorem renderToken (alike : AlikeButSelf first second) (firstOnce : first.ListsSelfOnce)
    (secondOnce : second.ListsSelfOnce) (unique : Unique) (span : Span) {name : String}
    (blind : ∀ own ∈ selfNames, Text.foldCase name ≠ Text.foldCase own) :
    second.renderToken unique span name = first.renderToken unique span name := by
  cases named : Token.ofName? name with
  | none => simp only [Context.renderToken, named]
  | some token =>
    have other : token ∉ [Token.oldName, .firstWordOfOldest, .index, .random] := by
      intro own
      have listed : token.name ∈ selfNames := by
        simp only [List.mem_cons, List.not_mem_nil, or_false] at own
        rcases own with rfl | rfl | rfl | rfl <;> decide
      exact blind _ listed (Token.foldCase_of_ofName? named).symm
    by_cases numbered : token = .uniqueNumber
    · subst numbered
      rw [renderToken_number _ _ _ named, renderToken_number _ _ _ named, alike.settings]
    · have known : token ≠ .random := by
        rintro rfl
        simp at other
      rw [renderToken_value _ _ _ named numbered known, renderToken_value _ _ _ named numbered known,
        alike.value firstOnce secondOnce other]

/-! ## Names -/

theorem work (alike : AlikeButSelf first second) (function : Function) (count : Nat) :
    function.work second count = function.work first count := by
  obtain ⟨name, same⟩ := alike.creature
  cases function with
  | customReplace => simp only [Function.work, alike.replacements]
  | time => simp only [Function.work, alike.now]
  | color => simp only [Function.work, Work.color, alike.species, alike.colors, same]
  | _ => rfl

theorem render (alike : AlikeButSelf first second) (firstOnce : first.ListsSelfOnce)
    (secondOnce : second.ListsSelfOnce)
    (blind : ∀ own ∈ selfNames, Pattern.mentions own nodes = false) (unique : Unique) :
    second.render unique nodes = first.render unique nodes := by
  have agrees : (second.render unique nodes).Agrees True (first.render unique nodes) := by
    apply render_agrees alike.work
    intro span name mentioned
    rw [alike.renderToken firstOnce secondOnce unique span
      fun own member => ne_of_mentions (blind own member) mentioned]
    exact .refl _
  exact agrees.eq (.inl trivial)

theorem generate (alike : AlikeButSelf first second) (firstOnce : first.ListsSelfOnce)
    (secondOnce : second.ListsSelfOnce)
    (blind : ∀ own ∈ selfNames, Pattern.mentions own nodes = false) :
    second.generate nodes = first.generate nodes := by
  have taken : second.taken = first.taken := by
    unfold Context.taken
    rw [alike.others]
  exact generate_congr (alike.render firstOnce secondOnce blind) taken alike.settings alike.mode

end AlikeButSelf

/-! ## A name that is in force -/

/-- The context once the creature bears a name, in its record and in its entry among the siblings,
with random digits of its own. -/
def committed (context : Context) (name : String) (random : Nat → String) : Context :=
  let siblings := context.siblings.map fun other =>
    if other.id = context.creature.id then { other with name } else other
  { context with
    creature := { context.creature with name }
    siblings
    random
    levels := .compute siblings }

theorem committed_filter (context : Context) (name : String) (random : Nat → String)
    (keeps : CreatureId → Bool) :
    ((context.committed name random).siblings.filter fun other => keeps other.id) =
      (context.siblings.filter fun other => keeps other.id).map fun other =>
        if other.id = context.creature.id then { other with name } else other := by
  have ids (other : Creature) :
      (if other.id = context.creature.id then { other with name } else other).id = other.id := by
    split <;> rfl
  simp only [committed, List.filter_map, Function.comp_def, ids]

theorem alikeButSelf_committed (context : Context) (name : String) (random : Nat → String) :
    AlikeButSelf context (context.committed name random) := by
  refine ⟨⟨name, rfl⟩, ?_, rfl, rfl, rfl, rfl, rfl, rfl⟩
  have kept := context.committed_filter name random (· != context.creature.id)
  unfold others
  refine kept.trans ?_
  -- Only the creature's own entry got a name, and that is left out.
  conv_rhs => rw [← List.map_id (List.filter _ _)]
  apply List.map_congr_left
  intro other member
  rw [if_neg (by simpa using (List.mem_filter.mp member).2)]
  rfl

theorem ListsSelfOnce.committed {context : Context} (once : context.ListsSelfOnce) (name : String)
    (random : Nat → String) : (context.committed name random).ListsSelfOnce := by
  refine ⟨?_, rfl⟩
  have own := context.committed_filter name random (· == context.creature.id)
  have length := congrArg List.length own
  rw [List.length_map] at length
  exact Nat.le_trans (Nat.le_of_eq length) once.single

/-- Two contexts that differ in what they say of the creature itself give it the same name. So
a name that has come into force is given again. -/
theorem generate_ignoresSelf (first second : Context) (nodes : List Pattern.Node)
    (random : Nat → String) (alike : AlikeButSelf first second) (firstOnce : first.ListsSelfOnce)
    (secondOnce : second.ListsSelfOnce)
    (blind : ∀ own ∈ selfNames, Pattern.mentions own nodes = false) :
    first.generate nodes = second.generate nodes ∧
      (first.committed (first.generate nodes).name random).generate nodes = first.generate nodes := by
  constructor
  · exact (alike.generate firstOnce secondOnce blind).symm
  · exact (first.alikeButSelf_committed _ random).generate firstOnce (firstOnce.committed _ random)
      blind

/-- A creature that holds the best level is named without its entry, and then among siblings that
list it last, dead and with other levels. -/
theorem generate_ignoresSelf_stale :
    let creature : Creature := { id := 2, species := "Rex", wildLevels := [45] }
    let other : Creature := { id := 1, species := "Rex", name := "145", wildLevels := [30] }
    let stale : Creature := { id := 2, name := "old", wildLevels := [99], status := .dead }
    let first : Context :=
      { creature, siblings := [other], now := ⟨⟨0, 0⟩, 0⟩, random := fun _ => "000000" }
    let second : Context :=
      { creature := { creature with name := "new" }
        siblings := [other, stale]
        now := ⟨⟨0, 0⟩, 0⟩
        random := fun _ => "111111" }
    let nodes : List Pattern.Node :=
      [.token ⟨0, 12⟩ "isNewTophp", .token ⟨12, 16⟩ "hp", .token ⟨16, 19⟩ "n"]
    AlikeButSelf first second ∧ first.ListsSelfOnce ∧ second.ListsSelfOnce ∧
      (∀ own ∈ selfNames, Pattern.mentions own nodes = false) ∧
      first.generate nodes = second.generate nodes ∧
      (first.committed (first.generate nodes).name fun _ => "222222").generate nodes =
        first.generate nodes := by
  intro creature other stale first second nodes
  have alike : AlikeButSelf first second :=
    ⟨⟨"new", rfl⟩, by decide, rfl, rfl, rfl, rfl, rfl, rfl⟩
  have firstOnce : first.ListsSelfOnce := ⟨by decide, rfl⟩
  have secondOnce : second.ListsSelfOnce := ⟨by decide, rfl⟩
  have blind : ∀ own ∈ selfNames, Pattern.mentions own nodes = false := by decide
  exact ⟨alike, firstOnce, secondOnce, blind,
    generate_ignoresSelf first second nodes (fun _ => "222222") alike firstOnce secondOnce blind⟩

end CreatureNaming.Context
