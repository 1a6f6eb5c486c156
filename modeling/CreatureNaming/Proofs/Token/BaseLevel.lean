import CreatureNaming.Proofs.Number.IntegerTexts
import CreatureNaming.Token.Value
import Mathlib.Algebra.Order.BigOperators.Group.List

/-! The level right after taming.

Sums of 32 bits differ from the exact ones by multiples of `2 ^ 32`. Known levels are not negative, so
the level that is shown is the exact one just if that is below `2 ^ 31`.
-/

set_option autoImplicit false

namespace CreatureNaming

theorem toInt_add_ofInt (sum : Int32) (level : Int) :
    (sum + .ofInt level).toInt = (sum.toInt + level).bmod (2 ^ 32) := by
  have wrapped : (Int32.ofInt level).toInt = level.bmod (2 ^ 32) := Int32.toInt_ofInt
  rw [Int32.toInt_add, wrapped, Int.add_bmod_bmod]

/-- A sum that wraps around at every step is the exact one, wrapped around once. -/
theorem toInt_foldl_add (levels : List Int) (start : Int32) :
    ((levels.map Int32.ofInt).foldl (· + ·) start).toInt =
      (start.toInt + levels.sum).bmod (2 ^ 32) := by
  induction levels generalizing start with
  | nil =>
    rw [List.sum_nil, Int.add_zero]
    exact start.toInt_bmod.symm
  | cons level levels ih =>
    rw [List.map_cons, List.foldl_cons, ih, toInt_add_ofInt, Int.bmod_add_bmod, Int.add_assoc,
      List.sum_cons]

namespace Context

variable (context : Context)

/-- The level right after taming, whether 32 bits hold it or not. -/
def exactBaseLevel : Int :=
  match context.level .torpidity with
  | some torpidity => torpidity + 1
  | none => (Stat.all.filterMap context.level).sum + 1

theorem toInt_baseLevel : context.baseLevel.toInt = context.exactBaseLevel.bmod (2 ^ 32) := by
  unfold baseLevel exactBaseLevel
  cases context.level .torpidity with
  | some torpidity =>
    dsimp only
    rw [Int32.add_comm, toInt_add_ofInt, Int32.toInt_one, Int.add_comm]
  | none =>
    dsimp only
    rw [Int32.toInt_add, toInt_foldl_add, Int.bmod_add_bmod, Int32.toInt_zero, Int.zero_add,
      Int32.toInt_one]

theorem level_nonneg {stat : Stat} {level : Int} (known : context.level stat = some level) :
    0 ≤ level := by
  unfold Context.level Creature.level at known
  split at known
  · split at known
    · obtain ⟨nonneg, same⟩ := Option.ite_none_right_eq_some.mp known
      cases same
      exact nonneg
    · cases known
  · cases known

theorem exactBaseLevel_pos : 0 < context.exactBaseLevel := by
  unfold exactBaseLevel
  split
  · next torpidity known =>
    have := context.level_nonneg known
    omega
  · have nonneg : 0 ≤ (Stat.all.filterMap context.level).sum := by
      refine List.sum_nonneg fun level member => ?_
      obtain ⟨stat, -, known⟩ := List.mem_filterMap.mp member
      exact context.level_nonneg known
    omega

/-- The exact level is shown just if 32 bits hold it. -/
theorem value_baseLevel_iff :
    Token.value context .baseLevel = Number.integerText context.exactBaseLevel ↔
      context.exactBaseLevel < 2 ^ 31 := by
  have positive := context.exactBaseLevel_pos
  have shown : Token.value context .baseLevel = Number.integerText context.baseLevel.toInt := rfl
  rw [shown, toInt_baseLevel]
  constructor
  · intro same
    have bound := Int.bmod_lt (x := context.exactBaseLevel) (m := 2 ^ 32) (by decide)
    rw [Number.integerText_inj same] at bound
    omega
  · intro small
    rw [Int.bmod_eq_of_le (by omega) (by omega)]

/-- One more than the largest torpidity of 32 bits is the least integer of 32 bits. -/
example :
    let context : Context :=
      { creature := { id := 1, species := "Rex", wildLevels := [0, 0, 2147483647] }, siblings := []
        now := ⟨⟨0, 0⟩, 0⟩, random := fun _ => "000000" }
    Token.value context .baseLevel = "-2147483648" := by decide +kernel

end Context

end CreatureNaming
