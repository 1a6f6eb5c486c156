import CreatureNaming.Time.Instant

/-! Points in time stand in one order, seconds first and then nanoseconds. -/

set_option autoImplicit false

namespace CreatureNaming.Time.Instant

variable {first second third : Instant}

theorem before_iff : first.before second = true ↔
    first.seconds < second.seconds ∨
      first.seconds = second.seconds ∧ first.nanos < second.nanos := by
  simp [before]

theorem before_irrefl (instant : Instant) : instant.before instant = false := by
  rw [← Bool.not_eq_true, before_iff]
  omega

theorem before_trans (early : first.before second = true) (late : second.before third = true) :
    first.before third = true := by
  rw [before_iff] at early late ⊢
  omega

/-- Of two different points in time one is before the other. -/
theorem before_or_before (apart : first ≠ second) :
    first.before second = true ∨ second.before first = true := by
  cases first
  cases second
  simp only [ne_eq, Instant.mk.injEq] at apart
  simp only [before_iff]
  omega

theorem not_before_of_before (early : first.before second = true) :
    second.before first = false := by
  rw [← Bool.not_eq_true, before_iff]
  rw [before_iff] at early
  omega

theorem not_before_trans (early : second.before first = false) (late : third.before second = false) :
    third.before first = false := by
  rw [← Bool.not_eq_true, before_iff] at early late ⊢
  omega

end CreatureNaming.Time.Instant
