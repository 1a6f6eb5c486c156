import CreatureNaming.Text.Blank
import Mathlib.Data.List.TakeWhile

/-! Runs of characters of a class, and blanks around a text.

A run is taken up to the first character that is not in its class, so what is put together from
a run and a text that begins outside of the class comes apart again at that place.
-/

set_option autoImplicit false

namespace CreatureNaming.Text

variable {keep : Char → Bool} {run rest before text after : List Char}

/-- No run goes on into a text. -/
def StopsRun (keep : Char → Bool) (rest : List Char) : Prop := ∀ c ∈ rest.head?, keep c = false

theorem run_append (all : ∀ c ∈ run, keep c = true) (stops : StopsRun keep rest) :
    (run ++ rest).takeWhile keep = run ∧ (run ++ rest).dropWhile keep = rest := by
  rw [List.takeWhile_append_of_pos all, List.dropWhile_append_of_pos all]
  cases rest with
  | nil => simp
  | cons c rest => simp [stops c rfl]

theorem exists_run (keep : Char → Bool) (text : List Char) :
    ∃ run rest, text = run ++ rest ∧ (∀ c ∈ run, keep c = true) ∧ StopsRun keep rest := by
  refine ⟨text.takeWhile keep, text.dropWhile keep, List.takeWhile_append_dropWhile.symm,
    fun c => List.all_eq_true.mp List.all_takeWhile c, fun c head => ?_⟩
  have stops := List.head?_dropWhile_not keep text
  rw [Option.mem_def.mp head] at stops
  simpa using stops

/-! ## Blanks around a text -/

theorem trimStartChars_blank (blank : ∀ c ∈ text, isBlank c = true) : trimStartChars text = [] :=
  List.dropWhile_eq_nil_iff.mpr blank

theorem trimEndChars_blank (blank : ∀ c ∈ text, isBlank c = true) : trimEndChars text = [] := by
  have reversed : ∀ c ∈ text.reverse, isBlank c = true :=
    fun c member => blank c (List.mem_reverse.mp member)
  rw [trimEndChars, List.dropWhile_eq_nil_iff.mpr reversed, List.reverse_nil]

theorem trimStartChars_append (blank : ∀ c ∈ before, isBlank c = true)
    (starts : StopsRun isBlank text) : trimStartChars (before ++ text) = text :=
  (run_append blank starts).2

theorem trimEndChars_append (blank : ∀ c ∈ after, isBlank c = true)
    (ends : ∀ c ∈ text.getLast?, isBlank c = false) : trimEndChars (text ++ after) = text := by
  have reversed : (text ++ after).reverse.dropWhile isBlank = text.reverse := by
    rw [List.reverse_append]
    refine (run_append (fun c member => blank c (List.mem_reverse.mp member)) ?_).2
    rwa [StopsRun, List.head?_reverse]
  rw [trimEndChars, reversed, List.reverse_reverse]

/-- Blanks around a text are cut off, up to where it begins and ends with something else. -/
theorem trimChars_append (blankBefore : ∀ c ∈ before, isBlank c = true)
    (blankAfter : ∀ c ∈ after, isBlank c = true) (nonempty : text ≠ [])
    (starts : StopsRun isBlank text) (ends : ∀ c ∈ text.getLast?, isBlank c = false) :
    trimChars (before ++ text ++ after) = text := by
  have onward : StopsRun isBlank (text ++ after) := by
    obtain ⟨c, rest, rfl⟩ := List.exists_cons_of_ne_nil nonempty
    exact starts
  rw [trimChars, List.append_assoc, trimStartChars_append blankBefore onward,
    trimEndChars_append blankAfter ends]

end CreatureNaming.Text
