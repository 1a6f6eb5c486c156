import CreatureNaming.Number.Digits
import CreatureNaming.Proofs.Naming.NumberSearch
import Mathlib.Data.Finset.Card
import Mathlib.Data.List.Nodup

/-! How many numbers are tried until a name is free.

If different numbers give different names, each name that is taken blocks one number at most. So
the search comes to a free name at the latest with the number after as many as there are such names,
however many creatures share them.
-/

set_option autoImplicit false

namespace CreatureNaming

namespace Pattern

theorem mentions_append (name : String) (first second : List Node) :
    mentions name (first ++ second) = (mentions name first || mentions name second) := by
  unfold mentions
  induction first with
  | nil => rfl
  | cons node rest ih => rw [List.cons_append, mentionsIn, mentionsIn, ih, Bool.or_assoc]

end Pattern

namespace Context

variable {context : Context} {nodes : List Pattern.Node} {name : Nat → String}

/-! ## The first free number -/

/-- The first number from one on whose name no other creature has. -/
structure IsFirstFree (context : Context) (name : Nat → String) (number : Nat) : Prop where
  positive : 1 ≤ number
  free : ¬context.IsTaken (name number)
  taken : ∀ earlier, 1 ≤ earlier → earlier < number → context.IsTaken (name earlier)

theorem IsFirstFree.eq {first second : Nat} (here : context.IsFirstFree name first)
    (there : context.IsFirstFree name second) : first = second := by
  rcases Nat.lt_trichotomy first second with before | same | after
  · exact absurd (there.taken first here.positive before) here.free
  · exact same
  · exact absurd (here.taken second there.positive after) there.free

theorem mem_taken {given : String} : given ∈ context.taken ↔ context.IsTaken given := by
  rw [← contains_taken, List.contains_iff_mem]

theorem card_taken_le (context : Context) :
    context.taken.toFinset.card ≤ context.others.length := calc
  context.taken.toFinset.card
  _ ≤ context.taken.length := List.toFinset_card_le _
  _ ≤ (context.others.map Creature.name).length := List.length_filter_le _ _
  _ = context.others.length := List.length_map _

/-- Each name that is taken blocks one number at most. -/
theorem count_le_taken (inj : ∀ {first second}, name first = name second → first = second)
    {count : Nat}
    (taken : ∀ number, 1 ≤ number → number ≤ count → context.IsTaken (name number)) :
    count ≤ context.taken.toFinset.card := by
  have distinct : ((List.range' 1 count).map name).Nodup :=
    .map (fun _ _ => inj) (List.nodup_range' 1)
  have among : ((List.range' 1 count).map name).toFinset ⊆ context.taken.toFinset := by
    intro given member
    obtain ⟨number, inRange, rfl⟩ := List.mem_map.mp (List.mem_toFinset.mp member)
    rw [List.mem_range'_1] at inRange
    exact List.mem_toFinset.mpr (mem_taken.mpr (taken number inRange.1 (by omega)))
  simpa [List.toFinset_card_of_nodup distinct] using Finset.card_le_card among

/-- A pattern shows the number, and different numbers give different names. -/
structure Counts (context : Context) (nodes : List Pattern.Node) (name : Nat → String) :
    Prop where
  render : ∀ number, context.render (.number number) nodes = ⟨name number, true⟩
  inj : ∀ {first second}, name first = name second → first = second

/-- With more numbers to try than names to avoid, the first free number is given. -/
theorem Counts.generate (counts : context.Counts nodes name)
    (room : context.taken.toFinset.card < context.searchLimit) :
    ∃ number, context.IsFirstFree name number ∧ number ≤ context.taken.toFinset.card + 1 ∧
      (context.generate nodes).name = name number ∧
      (context.generate nodes).uniqueNumber = some number ∧
      (context.generate nodes).exhausted = false := by
  have used (number : Nat) : (context.render (.number number) nodes).usesNumber = true := by
    rw [counts.render]
  obtain ⟨more, limit⟩ := Nat.exists_eq_add_of_lt room
  obtain ⟨number, chooses⟩ := searchFrom_used used 1 (context.taken.toFinset.card + more)
  rw [Nat.add_comm 1, ← limit] at chooses
  rw [generate_used (used 1) limit]
  have taken (earlier : Nat) (positive : 1 ≤ earlier) (before : earlier < number) :
      context.IsTaken (name earlier) := by
    simpa [counts.render] using chooses.takenBefore earlier positive before
  -- All numbers before it are blocked, each by another name.
  have early : number ≤ context.taken.toFinset.card + 1 := by
    have blocked : number - 1 ≤ context.taken.toFinset.card :=
      count_le_taken counts.inj fun earlier positive before => taken earlier positive (by omega)
    omega
  have free : ¬context.IsTaken (name number) := by
    intro last
    have blocked : number ≤ context.taken.toFinset.card := by
      apply count_le_taken counts.inj
      intro earlier positive atMost
      rcases Nat.eq_or_lt_of_le atMost with rfl | before
      · exact last
      · exact taken earlier positive before
    have := chooses.freeOrLast.resolve_left (by simpa [counts.render] using last)
    omega
  refine ⟨number, ⟨chooses.fromFirst, free, taken⟩, early, ?_, ?_, ?_⟩
  · simpa [counts.render] using chooses.name
  · simpa [used] using chooses.uniqueNumber
  · rw [← Bool.not_eq_true, chooses.exhausted]
    rintro ⟨-, all⟩
    exact free (by simpa [counts.render] using all number chooses.fromFirst chooses.toLast)

/-! ## One number among what stays the same -/

/-- Nodes that refer neither to the number nor to random digits have one rendering. -/
theorem render_fixed (unnumbered : Pattern.mentions "n" nodes = false)
    (fixed : Pattern.mentions "rnd" nodes = false) (unique : Unique) :
    context.render unique nodes = ⟨(context.render .placeholder nodes).text, false⟩ := by
  have unused := context.render_unmentioned .placeholder unnumbered
  rw [render_eq_of_unused fixed unused, ← unused]

theorem ofName?_number {written : String} (named : Text.foldCase written = "n") :
    Token.ofName? written = some .uniqueNumber := by
  rw [Token.ofName?, named]
  exact Token.ofFolded?_catalog .uniqueNumber (Token.mem_catalog _)

/-- One reference to the number beside nodes with one rendering shows the number between two texts,
which are the same for all numbers. -/
theorem counts_between (context : Context) {before after : List Pattern.Node} (span : Span)
    {written : String} (named : Text.foldCase written = "n")
    (alone : Pattern.mentions "n" (before ++ after) = false)
    (fixed : Pattern.mentions "rnd" (before ++ after) = false) :
    context.Counts (before ++ .token span written :: after) fun number =>
      (context.render .placeholder before).text ++
        (Number.integerText number ++ (context.render .placeholder after).text) := by
  rw [Pattern.mentions_append, Bool.or_eq_false_iff] at alone fixed
  constructor
  · intro number
    rw [render_append, render_fixed alone.1 fixed.1, Context.render,
      render_fixed alone.2 fixed.2, renderNode, renderToken_number _ _ _ (ofName?_number named)]
    rfl
  · intro first second same
    apply Number.integerText_natCast_inj
    exact (String.append_left_inj _).mp ((String.append_right_inj _).mp same)

/-- A pattern with one reference to the number, and none within a call, gives a free name if more
numbers are tried than names are taken; the number is at most the one after as many. -/
theorem generate_freeName (context : Context) (before after : List Pattern.Node) (span : Span)
    {written : String} (named : Text.foldCase written = "n")
    (alone : Pattern.mentions "n" (before ++ after) = false)
    (fixed : Pattern.mentions "rnd" (before ++ after) = false)
    (room : context.taken.toFinset.card < context.searchLimit) :
    let outcome := context.generate (before ++ .token span written :: after)
    outcome.exhausted = false ∧ outcome.name ∉ context.taken ∧
      ∃ number ≤ context.taken.toFinset.card + 1, outcome.uniqueNumber = some number := by
  intro outcome
  obtain ⟨number, first, early, name, given, found⟩ :=
    (counts_between context span named alone fixed).generate room
  refine ⟨found, ?_, number, early, given⟩
  rw [mem_taken, name]
  exact first.free

/-- Two creatures share a name, another one has the next, and a fourth has none. -/
theorem generate_freeName_shared :
    let context : Context :=
      { creature := { id := 5, species := "Rex", name := "Rex_3" }
        siblings := [{ id := 1, name := "Rex_1" }, { id := 2, name := "Rex_1" },
          { id := 3, name := "Rex_2" }, { id := 4 }, { id := 5, name := "Rex_3" }]
        settings := { uniqueLimit := 3 }
        now := ⟨⟨0, 0⟩, 0⟩
        random := fun _ => "000000" }
    let before : List Pattern.Node := [.token ⟨0, 9⟩ "species", .literal ⟨9, 10⟩ "_"]
    let after : List Pattern.Node :=
      [.call ⟨13, 33⟩ ⟨16, 18⟩ "if" [[.token ⟨20, 27⟩ "owner"], [.literal ⟨28, 30⟩ "x"]]]
    let outcome := context.generate (before ++ .token ⟨10, 13⟩ "N" :: after)
    Text.foldCase "N" = "n" ∧ Pattern.mentions "n" (before ++ after) = false ∧
      Pattern.mentions "rnd" (before ++ after) = false ∧
      context.taken.toFinset.card = 2 ∧ context.searchLimit = 3 ∧
      outcome.exhausted = false ∧ outcome.name ∉ context.taken ∧
      ∃ number ≤ 3, outcome.uniqueNumber = some number := by
  intro context before after outcome
  have named : Text.foldCase "N" = "n" := by decide
  have alone : Pattern.mentions "n" (before ++ after) = false := by decide
  have fixed : Pattern.mentions "rnd" (before ++ after) = false := by decide
  have names : context.taken.toFinset.card = 2 := by decide +kernel
  have limit : context.searchLimit = 3 := by decide
  have room : context.taken.toFinset.card < context.searchLimit := by
    rw [names, limit]
    decide
  obtain ⟨found, free, number, early, given⟩ :=
    generate_freeName context before after ⟨10, 13⟩ named alone fixed room
  rw [names] at early
  exact ⟨named, alone, fixed, names, limit, found, free, number, early, given⟩

end Context

end CreatureNaming
