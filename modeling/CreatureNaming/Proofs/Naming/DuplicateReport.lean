import CreatureNaming.Proofs.Naming.NumberSearch

/-! What it means that a name is reported as a duplicate.

The report says that another creature has the name and that no number is part of it. One name is
never reported: that of a preview without numbers to try, if the pattern refers to the number. It
goes unreported even where the reference is in an argument that no function asks for.
-/

set_option autoImplicit false

namespace CreatureNaming.Context

variable {context : Context} {nodes : List Pattern.Node}

theorem searchLimit_eq_zero_iff :
    context.searchLimit = 0 ↔ context.mode = .preview ∧ context.settings.previewLimit = 0 := by
  unfold searchLimit
  cases context.mode with
  | preview => simp [← UInt32.toNat_inj]
  | commit => simp

theorem generate_unmentioned (absent : Pattern.mentions "n" nodes = false) :
    context.generate nodes =
      { name := (context.render .placeholder nodes).text
        duplicate := context.taken.contains (context.render .placeholder nodes).text
        tooLong := context.isTooLong (context.render .placeholder nodes).text } := by
  simp [generate, absent]

/-- Without numbers to try, the placeholder is shown and nothing is reported. -/
theorem generate_untried (mentioned : Pattern.mentions "n" nodes = true)
    (untried : context.searchLimit = 0) :
    context.generate nodes =
      { name := (context.render .placeholder nodes).text
        tooLong := context.isTooLong (context.render .placeholder nodes).text } := by
  simp [generate, mentioned, search, untried]

/-- While every rendering uses the number, no name is reported as a duplicate. -/
theorem searchFrom_unreported
    (used : ∀ number, (context.render (.number number) nodes).usesNumber = true)
    (taken : List String) (number more : Nat) :
    (context.searchFrom nodes taken number more).duplicate = false := by
  induction more generalizing number with
  | zero =>
    rw [searchFrom, used]
    cases taken.contains (context.render (.number number) nodes).text <;> rfl
  | succ more ih =>
    rw [searchFrom, used]
    cases taken.contains (context.render (.number number) nodes).text with
    | true => exact ih (number + 1)
    | false => rfl

/-- A name is reported as a duplicate exactly if another creature has it and the number was not
rendered for it, unless the pattern refers to the number in a preview that tries none. -/
theorem generate_duplicate_iff (context : Context) (nodes : List Pattern.Node)
    (again : Nat → String) (fixed : Pattern.mentions "rnd" nodes = false) :
    let outcome := context.generate nodes
    let rendered :=
      (context.redrawn again).render (outcome.uniqueNumber.elim .placeholder .number) nodes
    rendered.text = outcome.name ∧
      (outcome.duplicate = true ↔
        (context.IsTaken outcome.name ∧ rendered.usesNumber = false) ∧
          ¬(Pattern.mentions "n" nodes = true ∧ context.mode = .preview ∧
            context.settings.previewLimit = 0)) := by
  simp only [render_redrawn _ _ _ fixed, ← searchLimit_eq_zero_iff]
  cases mentioned : Pattern.mentions "n" nodes with
  | false =>
    have unused := context.render_unmentioned .placeholder mentioned
    rw [generate_unmentioned mentioned]
    simp [unused, ← contains_taken]
  | true =>
    rcases Nat.eq_zero_or_pos context.searchLimit with untried | searches
    · rw [generate_untried mentioned untried]
      simp [untried]
    · cases used : (context.render (.number 1) nodes).usesNumber with
      | true =>
        -- Every rendering shows the number, so there is nothing to report.
        have usedAll : ∀ number, (context.render (.number number) nodes).usesNumber = true :=
          fun number => by rw [usesNumber_uniform fixed _ (.number 1), used]
        obtain ⟨more, limit⟩ := Nat.exists_eq_succ_of_ne_zero (Nat.pos_iff_ne_zero.mp searches)
        obtain ⟨number, chooses⟩ := searchFrom_used usedAll 1 more
        have reported := chooses.uniqueNumber
        rw [if_pos (usedAll number)] at reported
        rw [generate_used used limit]
        simp [reported, chooses.name, usedAll, searchFrom_unreported usedAll]
      | false =>
        have same := render_eq_of_unused fixed used
        have unused : ∀ unique, (context.render unique nodes).usesNumber = false :=
          fun unique => by rw [same unique, used]
        rw [generate_unused unused (fun unique => by rw [same unique, same .placeholder]) searches]
        simp [unused, ← contains_taken, Nat.ne_of_gt searches]

/-- The number is in an argument that no function asks for. -/
theorem generate_duplicate_iff_untaken :
    let context : Context :=
      { creature := { id := 1, species := "Rex" }
        siblings := [{ id := 2, species := "Rex", name := "Rex" }]
        settings := { previewLimit := 1 }
        mode := .preview
        now := ⟨⟨0, 0⟩, 0⟩
        random := fun _ => "000000" }
    let nodes : List Pattern.Node :=
      [.token ⟨0, 9⟩ "species", .call ⟨9, 23⟩ ⟨12, 14⟩ "if" [[], [.token ⟨18, 21⟩ "n"]]]
    let outcome := context.generate nodes
    let rendered := (context.redrawn fun _ => "111111").render
      (outcome.uniqueNumber.elim .placeholder .number) nodes
    Pattern.mentions "rnd" nodes = false ∧ rendered.text = outcome.name ∧
      (outcome.duplicate = true ↔
        (context.IsTaken outcome.name ∧ rendered.usesNumber = false) ∧
          ¬(Pattern.mentions "n" nodes = true ∧ context.mode = .preview ∧
            context.settings.previewLimit = 0)) := by
  intro context nodes outcome rendered
  have fixed : Pattern.mentions "rnd" nodes = false := by decide
  exact ⟨fixed, generate_duplicate_iff context nodes (fun _ => "111111") fixed⟩

/-- Where no number is tried, the same name goes unreported although another creature has it. -/
theorem generate_duplicate_unreported :
    let context : Context :=
      { creature := { id := 1, species := "Rex" }
        siblings := [{ id := 2, species := "Rex", name := "Rex" }]
        settings := { previewLimit := 0 }
        mode := .preview
        now := ⟨⟨0, 0⟩, 0⟩
        random := fun _ => "000000" }
    let nodes : List Pattern.Node :=
      [.token ⟨0, 9⟩ "species", .call ⟨9, 23⟩ ⟨12, 14⟩ "if" [[], [.token ⟨18, 21⟩ "n"]]]
    let outcome := context.generate nodes
    let rendered := context.render (outcome.uniqueNumber.elim .placeholder .number) nodes
    Pattern.mentions "rnd" nodes = false ∧ rendered.text = outcome.name ∧
      context.IsTaken outcome.name ∧ rendered.usesNumber = false ∧ outcome.duplicate = false := by
  simp only [← contains_taken]
  decide +kernel

end CreatureNaming.Context
