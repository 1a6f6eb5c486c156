import CreatureNaming.Proofs.Naming.FirstFree

/-! Patterns that show nothing but the species and one number.

Such a pattern gives different names for different numbers. So each creature blocks one number at
most, and a search over more numbers than there are other creatures finds the first free one.
-/

set_option autoImplicit false

namespace CreatureNaming

namespace Pattern

/-- A reference to the unique number. -/
def Node.isNumber : Node → Bool
  | .token _ name => Token.ofName? name == some .uniqueNumber
  | _ => false

/-- A literal, or a reference to the name of the species. -/
def Node.isSpeciesText : Node → Bool
  | .literal _ _ => true
  | .token _ name =>
      Token.ofName? name == some .species || Token.ofName? name == some .speciesNoVowels
  | .call _ _ _ _ => false

/-- Only literals and references to the name of the species, and exactly one unique number. -/
def isNumbered (nodes : List Node) : Bool :=
  (nodes.all fun node => node.isSpeciesText || node.isNumber) && nodes.countP Node.isNumber == 1

theorem isNumbered_split {nodes : List Node} (numbered : isNumbered nodes = true) :
    ∃ before number after, nodes = before ++ number :: after ∧ number.isNumber = true ∧
      (∀ node ∈ before, node.isSpeciesText = true) ∧
      ∀ node ∈ after, node.isSpeciesText = true := by
  simp only [isNumbered, Bool.and_eq_true, List.all_eq_true, beq_iff_eq] at numbered
  obtain ⟨allowed, once⟩ := numbered
  obtain ⟨number, member, isNumber⟩ :=
    List.countP_pos_iff.mp (Nat.lt_of_lt_of_eq Nat.one_pos once.symm)
  obtain ⟨before, after, rfl⟩ := List.append_of_mem member
  have others : (before ++ after).countP Node.isNumber = 0 := by
    rw [List.countP_append, List.countP_cons_of_pos isNumber] at once
    rw [List.countP_append]
    omega
  have fixed : ∀ node ∈ before ++ after, node.isSpeciesText = true := by
    intro node among
    have unnumbered := List.countP_eq_zero.mp others node among
    have either := allowed node (by grind)
    simpa [unnumbered] using either
  rw [List.forall_mem_append] at fixed
  exact ⟨before, number, after, rfl, isNumber, fixed.1, fixed.2⟩

end Pattern

namespace Context

/-- What a node shows of the species. -/
def speciesText (species : String) : Pattern.Node → String
  | .literal _ text => text
  | .token _ name =>
      if Token.ofName? name = some .species then species else withoutVowels species
  | .call _ _ _ _ => ""

/-- What nodes show of the species. -/
def speciesTexts (species : String) (nodes : List Pattern.Node) : String :=
  nodes.foldr (fun node rest => speciesText species node ++ rest) ""

theorem renderNode_speciesText (context : Context) (unique : Unique) {node : Pattern.Node}
    (fixed : node.isSpeciesText = true) :
    context.renderNode unique node = ⟨speciesText context.creature.species node, false⟩ := by
  cases node with
  | literal span text => rfl
  | token span name =>
    simp only [Pattern.Node.isSpeciesText, Bool.or_eq_true, beq_iff_eq] at fixed
    rcases fixed with named | named <;>
      simp [renderNode, renderToken, speciesText, named, Token.value]
  | call span nameSpan name arguments => cases fixed

theorem renderNode_isNumber (context : Context) (number : Nat) {node : Pattern.Node}
    (numbered : node.isNumber = true) :
    context.renderNode (.number number) node = ⟨Number.integerText number, true⟩ := by
  cases node with
  | token span name =>
    simp only [Pattern.Node.isNumber, beq_iff_eq] at numbered
    simp [renderNode, renderToken, numbered]
  | literal span text => cases numbered
  | call span nameSpan name arguments => cases numbered

theorem render_speciesTexts (context : Context) (unique : Unique) {nodes : List Pattern.Node}
    (fixed : ∀ node ∈ nodes, node.isSpeciesText = true) :
    context.render unique nodes = ⟨speciesTexts context.creature.species nodes, false⟩ := by
  induction nodes with
  | nil => rfl
  | cons node rest ih =>
    rw [List.forall_mem_cons] at fixed
    rw [render, renderNode_speciesText _ _ fixed.1, ih fixed.2]
    rfl

/-- A pattern names creatures by their species and a number, and different numbers give different
names. -/
structure Titles (nodes : List Pattern.Node) (title : String → Nat → String) : Prop where
  render : ∀ (context : Context) number,
    context.render (.number number) nodes = ⟨title context.creature.species number, true⟩
  inj : ∀ {species first second}, title species first = title species second → first = second
  ne_empty : ∀ species number, title species number ≠ ""

theorem exists_titles {nodes : List Pattern.Node} (numbered : Pattern.isNumbered nodes = true) :
    ∃ title, Titles nodes title := by
  obtain ⟨before, number, after, rfl, isNumber, fixedBefore, fixedAfter⟩ :=
    Pattern.isNumbered_split numbered
  refine ⟨fun species number =>
    speciesTexts species before ++ (Number.integerText number ++ speciesTexts species after), ?_⟩
  constructor
  · intro context number
    rw [render_append, render_speciesTexts _ _ fixedBefore, Context.render,
      renderNode_isNumber _ _ isNumber, render_speciesTexts _ _ fixedAfter]
    rfl
  · intro species first second same
    apply Number.integerText_natCast_inj
    exact (String.append_left_inj _).mp ((String.append_right_inj _).mp same)
  · intro species number empty
    have chars := congrArg String.toList empty
    simp [Number.integerText_natCast, Number.decimalDigits, Nat.toDigits_ne_nil] at chars

variable {context : Context} {nodes : List Pattern.Node} {title : String → Nat → String}

theorem Titles.counts (titles : Titles nodes title) (context : Context) :
    context.Counts nodes (title context.creature.species) :=
  ⟨titles.render context, titles.inj⟩

/-- With more numbers to try than creatures to avoid, the first free number is given. -/
theorem generate_titles (titles : Titles nodes title)
    (room : context.others.length < context.searchLimit) :
    ∃ number, context.IsFirstFree (title context.creature.species) number ∧
      number ≤ context.others.length + 1 ∧
      (context.generate nodes).name = title context.creature.species number ∧
      (context.generate nodes).uniqueNumber = some number ∧
      (context.generate nodes).exhausted = false := by
  have fewer := context.card_taken_le
  obtain ⟨number, first, early, given⟩ :=
    (titles.counts context).generate (Nat.lt_of_le_of_lt fewer room)
  exact ⟨number, first, Nat.le_trans early (Nat.succ_le_succ fewer), given⟩

end Context

end CreatureNaming
