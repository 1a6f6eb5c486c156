import CreatureNaming.Proofs.Number.Int64
import CreatureNaming.Text.Search
import Mathlib.Data.List.Infix
import Mathlib.Order.Bounds.Basic

/-! Slices of a text, and where a part stands in it.

The start and the length of a slice are cut off at the ends of the text, so with every operation
checked the slice is still there: nothing leaves the integers of 64 bits and no position lies
outside of the text. A part is found at the least position at which a slice of its length is the
part.
-/

set_option autoImplicit false

namespace CreatureNaming.Text

open Binary64 (IsInt64 minInt64 maxInt64)

variable {text part : List Char} {start : Int} {length : Option Int} {position : Nat}

/-! ## Bounds -/

/-- Where a slice starts in a text of some length. -/
def sliceStart (total start : Int) : Int :=
  if start < 0 then max (total + start) 0 else min start total

/-- Where a slice stops in a text of some length. -/
def sliceStop (total start : Int) (length : Option Int) : Int :=
  length.elim total fun length => min (sliceStart total start + max length 0) total

theorem sliceStart_bounds (total : Nat) (start : Int) :
    0 ≤ sliceStart total start ∧ sliceStart total start ≤ total := by
  unfold sliceStart
  split <;> omega

theorem sliceStop_bounds (total : Nat) (start : Int) (length : Option Int) :
    sliceStart total start ≤ sliceStop total start length ∧
      sliceStop total start length ≤ total := by
  obtain ⟨least, most⟩ := sliceStart_bounds total start
  unfold sliceStop
  cases length with
  | none => exact ⟨most, Int.le_refl _⟩
  | some length =>
    rw [Option.elim_some]
    omega

/-- A slice is what stands between its start and its stop. -/
theorem slice_eq_extract (text : List Char) (start : Int) (length : Option Int) :
    slice text start length =
      text.extract (sliceStart text.length start).toNat
        (sliceStop text.length start length).toNat := by
  obtain ⟨least, most⟩ := sliceStart_bounds text.length start
  have taken : (length.elim (text.length - sliceStart text.length start) fun length =>
      max 0 (min length (text.length - sliceStart text.length start))).toNat =
        (sliceStop text.length start length).toNat - (sliceStart text.length start).toNat := by
    unfold sliceStop
    cases length with
    | none =>
      rw [Option.elim_none, Option.elim_none]
      omega
    | some length =>
      rw [Option.elim_some, Option.elim_some]
      omega
  rw [List.extract_eq_take_drop, ← taken]
  rfl

/-! ## Checked slices -/

/-- The result of an operation on integers of 64 bits; none when it overflows. -/
def int64? (value : Int) : Option Int := if IsInt64 value then some value else none

/-- A value cut off at two bounds; none when there is nothing between them. -/
def clamp? (value least most : Int) : Option Int :=
  if least ≤ most then some (max least (min value most)) else none

/-- The characters between two positions; none when these are not positions of the text in their
order. -/
def between? (text : List Char) (start stop : Int) : Option (List Char) :=
  if 0 ≤ start ∧ start ≤ stop ∧ stop ≤ text.length then
    some (text.extract start.toNat stop.toNat)
  else none

/-- Where a slice starts, with every operation checked. -/
def sliceStart? (total start : Int) : Option Int :=
  if start < 0 then (int64? (total + start)).map (max · 0) else some (min start total)

/-- A slice with every operation checked. -/
def slice? (text : List Char) (start : Int) (length : Option Int) : Option (List Char) := do
  let total ← int64? text.length
  let start ← sliceStart? total start
  let available ← int64? (total - start)
  let length ← length.elim (some available) fun length => clamp? length 0 available
  let stop ← int64? (start + length)
  between? text start stop

theorem int64?_eq_some {value : Int} (held : IsInt64 value) : int64? value = some value :=
  if_pos held

theorem sliceStart?_eq_some {total : Nat} (held : IsInt64 total) (first : IsInt64 start) :
    sliceStart? total start = some (sliceStart total start) := by
  unfold sliceStart? sliceStart
  split
  · rw [int64?_eq_some, Option.map_some]
    unfold IsInt64 minInt64 maxInt64 at *
    omega
  · rfl

/-- From integers of 64 bits, no operation of a slice fails. -/
theorem slice?_eq_some (total : IsInt64 text.length) (first : IsInt64 start)
    (length : Option Int) : slice? text start length = some (slice text start length) := by
  obtain ⟨least, most⟩ := sliceStart_bounds text.length start
  obtain ⟨ordered, within⟩ := sliceStop_bounds text.length start length
  have available : IsInt64 (text.length - sliceStart text.length start) := by
    unfold IsInt64 minInt64 maxInt64 at *
    omega
  have counted : (length.elim (some (text.length - sliceStart text.length start)) fun length =>
      clamp? length 0 (text.length - sliceStart text.length start)) =
        some (sliceStop text.length start length - sliceStart text.length start) := by
    unfold sliceStop
    cases length with
    | none => rfl
    | some length =>
      rw [Option.elim_some, Option.elim_some, clamp?, if_pos (by omega), Option.some_inj]
      omega
  have stops : sliceStart text.length start +
      (sliceStop text.length start length - sliceStart text.length start) =
        sliceStop text.length start length := by
    omega
  have stop : IsInt64 (sliceStop text.length start length) := by
    unfold IsInt64 minInt64 maxInt64 at *
    omega
  simp only [slice?, int64?_eq_some total, sliceStart?_eq_some total first,
    int64?_eq_some available, counted, stops, int64?_eq_some stop, Option.bind_eq_bind,
    Option.bind_some]
  rw [between?, if_pos ⟨least, ordered, within⟩, slice_eq_extract]

/-! ## Slices at a position -/

/-- A slice from a position that counts from the start of the text. -/
theorem slice_natCast (text : List Char) (position : Nat) (length : Option Int) :
    slice text position length =
      length.elim (text.drop position) fun length => (text.drop position).take length.toNat := by
  have starts : (sliceStart text.length position).toNat = min position text.length := by
    unfold sliceStart
    split <;> omega
  rw [slice_eq_extract, List.extract_eq_take_drop, starts, ← List.drop_eq_drop_min]
  unfold sliceStop
  cases length with
  | none =>
    rw [Option.elim_none, Option.elim_none, Int.toNat_natCast]
    refine List.take_of_length_le ?_
    rw [List.length_drop]
    omega
  | some length =>
    rw [Option.elim_some, Option.elim_some, List.take_eq_take_iff, List.length_drop]
    have := sliceStart_bounds text.length position
    omega

/-- A slice from a position that counts from the end of the text. -/
theorem slice_negative (text : List Char) (behind : start < 0) (within : -text.length ≤ start)
    (length : Option Int) :
    slice text start length = slice text (text.length + start) length := by
  have same : sliceStart text.length start = sliceStart text.length (text.length + start) := by
    unfold sliceStart
    rw [if_pos behind, if_neg (by omega)]
    omega
  rw [slice_eq_extract, slice_eq_extract, sliceStop, sliceStop, same]

/-- A text is put together again by the slices before and from a position. -/
theorem slice_append_slice (text : List Char) (ahead : 0 ≤ start) :
    slice text 0 (some start) ++ slice text start none = text := by
  obtain ⟨position, rfl⟩ := Int.eq_ofNat_of_zero_le ahead
  have first := slice_natCast text 0 (some position)
  rw [Int.natCast_zero] at first
  rw [first, slice_natCast]
  exact List.take_append_drop position text

/-! ## Where a part stands -/

/-- The positions at which a part stands in a text. -/
def places (part text : List Char) : Set Nat := {position | part <+: text.drop position}

theorem succ_mem_places {first : Char} {rest : List Char} :
    position + 1 ∈ places part (first :: rest) ↔ position ∈ places part rest := Iff.rfl

/-- The position that is found is the least one; when none is found, there is none. -/
theorem find?_places (part text : List Char) :
    (∀ position, find? part text = some position → IsLeast (places part text) position) ∧
      (find? part text = none → ∀ position, position ∉ places part text) := by
  induction text with
  | nil =>
    cases part with
    | nil =>
      refine ⟨fun position found => ?_, nofun⟩
      obtain rfl : 0 = position := by simpa [find?] using found
      exact ⟨List.prefix_rfl, fun _ _ => Nat.zero_le _⟩
    | cons c others => exact ⟨nofun, fun _ position stands => by simp [places] at stands⟩
  | cons first rest ih =>
    obtain ⟨least, missing⟩ := ih
    rw [find?]
    split
    · rename_i stands
      refine ⟨fun position found => ?_, nofun⟩
      obtain rfl : 0 = position := by simpa using found
      exact ⟨List.isPrefixOf_iff_prefix.mp stands, fun _ _ => Nat.zero_le _⟩
    · rename_i absent
      have here : 0 ∉ places part (first :: rest) := fun stands =>
        absent (List.isPrefixOf_iff_prefix.mpr stands)
      constructor
      · intro position found
        obtain ⟨before, same, rfl⟩ := Option.map_eq_some_iff.mp found
        obtain ⟨stands, bound⟩ := least before same
        refine ⟨succ_mem_places.mpr stands, fun place other => ?_⟩
        cases place with
        | zero => exact absurd other here
        | succ place => exact Nat.succ_le_succ (bound (succ_mem_places.mp other))
      · intro none position stands
        cases position with
        | zero => exact here stands
        | succ position =>
          exact missing (Option.map_eq_none_iff.mp none) position (succ_mem_places.mp stands)

theorem infix_iff_exists_place : part <:+: text ↔ ∃ position, position ∈ places part text := by
  rw [List.infix_iff_prefix_suffix]
  constructor
  · rintro ⟨rest, start, finish⟩
    refine ⟨text.length - rest.length, ?_⟩
    rw [places, Set.mem_ofPred_eq, ← List.suffix_iff_eq_drop.mp finish]
    exact start
  · rintro ⟨position, stands⟩
    exact ⟨text.drop position, stands, List.drop_suffix position text⟩

/-- A part is found just when it stands in the text. -/
theorem find?_isSome_iff (part text : List Char) : (find? part text).isSome ↔ part <:+: text := by
  obtain ⟨least, missing⟩ := find?_places part text
  rw [infix_iff_exists_place]
  cases found : find? part text with
  | none => simpa using missing found
  | some position => exact iff_of_true rfl ⟨position, (least position found).1⟩

theorem places_eq_slices (part text : List Char) :
    places part text = {position : Nat | slice text position (some part.length) = part} := by
  ext position
  rw [places, Set.mem_ofPred_eq, Set.mem_ofPred_eq, slice_natCast, Option.elim_some,
    Int.toNat_natCast, List.prefix_iff_eq_take, eq_comm]

end CreatureNaming.Text
