import Mathlib.Data.List.Induction

/-! Escapes by backslashes.

A backslash protects the character behind it, and a backslash that is protected itself protects
nothing. So it is the number of backslashes before a character that counts.
-/

set_option autoImplicit false

namespace CreatureNaming.Text

/-- Whether the character behind a text is escaped. -/
def escapesNext : (escaped : Bool) → List Char → Bool
  | escaped, [] => escaped
  | escaped, c :: rest => escapesNext (!escaped && c == '\\') rest

/-- How many backslashes a text ends with. -/
def trailingBackslashes (text : List Char) : Nat := (text.reverse.takeWhile (· == '\\')).length

theorem escapesNext_concat (escaped : Bool) (text : List Char) (c : Char) :
    escapesNext escaped (text ++ [c]) = (!escapesNext escaped text && c == '\\') := by
  induction text generalizing escaped with
  | nil => rfl
  | cons first rest ih => rw [List.cons_append, escapesNext, escapesNext, ih]

theorem trailingBackslashes_concat (text : List Char) (c : Char) :
    trailingBackslashes (text ++ [c]) = if c = '\\' then trailingBackslashes text + 1 else 0 := by
  rw [trailingBackslashes, List.reverse_concat, List.takeWhile_cons]
  by_cases backslash : c = '\\'
  · rw [if_pos backslash, if_pos (beq_iff_eq.mpr backslash), List.length_cons, trailingBackslashes]
  · rw [if_neg backslash, if_neg (by simpa using backslash), List.length_nil]

/-- A character is escaped behind an odd number of backslashes. -/
theorem escapesNext_eq_odd (text : List Char) :
    escapesNext false text = (trailingBackslashes text % 2 == 1) := by
  induction text using List.reverseRecOn with
  | nil => rfl
  | append_singleton text c ih =>
    rw [escapesNext_concat, trailingBackslashes_concat, ih]
    by_cases backslash : c = '\\'
    · rw [if_pos backslash, beq_iff_eq.mpr backslash, Bool.and_true]
      rcases Nat.mod_two_eq_zero_or_one (trailingBackslashes text) with even | odd
      · rw [even, Nat.add_mod, even]
        rfl
      · rw [odd, Nat.add_mod, odd]
        rfl
    · rw [if_neg backslash, beq_false_of_ne backslash, Bool.and_false]
      rfl

end CreatureNaming.Text
