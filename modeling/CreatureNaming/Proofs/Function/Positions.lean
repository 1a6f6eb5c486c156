import CreatureNaming.Proofs.Function.Answers
import CreatureNaming.Proofs.Number.Digits
import CreatureNaming.Proofs.Text.Bytes

/-! Calls that cut a text, and calls that find a part of it.

What a call is given as a start or a length is cut off at the limits of 64 bits before it gets to
the slice, so the slice is safe whatever the numbers of the call are. A call that finds a part shows
its position in characters, which is where a slice of the length of the part is the part.
-/

set_option autoImplicit false

namespace CreatureNaming

open Binary64 (IsInt64)
open Text (slice slice? sliceStart sliceStop)

variable {arguments : List (Unit → Rendered)} {position : Nat}

/-! ## Slices by calls -/

theorem isInt64_of_answer_integer {value : Int}
    (answered : Work.answer arguments (Work.integer position) = .ok value) : IsInt64 value := by
  obtain ⟨number, -, shown⟩ := Work.exists_of_answer_bind answered
  obtain rfl : number.truncate = value := by simpa using shown
  exact Binary64.isInt64_truncate number

/-- A call that shows a slice has cut its text from a start of 64 bits. -/
theorem exists_slice_of_answer {shown : String}
    (answered : Work.answer arguments Work.substring = .ok shown) :
    ∃ start length, IsInt64 start ∧ shown = .ofList (slice (given arguments 0).toList start length) := by
  obtain ⟨text, texted, answered⟩ := Work.exists_of_answer_bind answered
  obtain ⟨start, started, answered⟩ := Work.exists_of_answer_bind answered
  obtain ⟨counted, -, answered⟩ := Work.exists_of_answer_bind answered
  obtain rfl : given arguments 0 = text := by simpa using texted
  have first := isInt64_of_answer_integer started
  cases counted with
  | none => exact ⟨start, none, first, by simpa using answered.symm⟩
  | some count =>
    obtain ⟨number, -, answered⟩ := Work.exists_of_answer_bind answered
    exact ⟨start, some number.truncate, first, by simpa using answered.symm⟩

/-! ## Positions by calls -/

theorem answer_indexOf :
    Work.answer arguments Work.indexOf =
      .ok ((Text.find? (given arguments 1).toList (given arguments 0).toList).elim ""
        fun position => Number.integerText position) := by
  rw [Work.indexOf, Work.answer_bind, Work.answer_argument, ok_bind, Work.answer_bind,
    Work.answer_argument, ok_bind, Work.answer_pure]

theorem integerText_ne_empty (position : Nat) : Number.integerText position ≠ "" := by
  rw [Number.integerText_natCast, Ne, String.ofList_eq_empty_iff]
  exact Number.decimalDigits_ne_nil position

/-- A call for a part of a text shows nothing just when the part does not stand in the text. -/
theorem renderCall_indexOf (context : Context) {text part : List Char}
    (first : given arguments 0 = .ofList text) (second : given arguments 1 = .ofList part) :
    (context.renderCall "indexof" arguments).text =
      (Text.find? part text).elim "" fun position => Number.integerText position := by
  have named : Function.ofName? "indexof" = some .indexOf := by decide
  rw [context.renderCall_text named, Function.work, answer_indexOf, first, second,
    String.toList_ofList, String.toList_ofList]

/-- A slice of a text is safe when the number of its characters is one of 64 bits, as it is of all
that fits into memory. A text is put together again by the slices before and from a position. The
position that a call shows for a part is the least one at which a slice of the length of the part
is the part, and the characters before it end where the bytes of the part are found. -/
theorem slice_and_position (text : List Char) :
    (∀ (start : Int) (length : Option Int),
      (IsInt64 text.length → IsInt64 start →
        slice? text start length = some (slice text start length)) ∧
      slice text start length =
        text.extract (sliceStart text.length start).toNat
          (sliceStop text.length start length).toNat) ∧
    (∀ position : Int,
      (0 ≤ position → slice text 0 (some position) ++ slice text position none = text) ∧
      (-text.length ≤ position → position < 0 →
        slice text 0 (some (text.length + position)) ++ slice text position none = text)) ∧
    ∀ (context : Context) (arguments : List (Unit → Rendered)),
      given arguments 0 = .ofList text →
      (∀ shown, Work.answer arguments Work.substring = .ok shown → IsInt64 text.length →
        ∃ start length, slice? text start length = some shown.toList) ∧
      ∀ part, given arguments 1 = .ofList part →
        let shown := (context.renderCall "indexof" arguments).text
        (shown = "" ↔ ¬ part <:+: text) ∧
        (part <:+: text → ∃ position : Nat, shown = Number.integerText position ∧
          IsLeast {position : Nat | slice text position (some part.length) = part} position ∧
          ∃ before, before <+: text ∧ before.length = position ∧
            IsLeast (Text.offsets part text) (Text.byteLength before)) := by
  refine ⟨fun start length => ⟨fun total first => Text.slice?_eq_some total first length,
    Text.slice_eq_extract text start length⟩, fun position => ⟨?_, ?_⟩, ?_⟩
  · exact Text.slice_append_slice text
  · intro within behind
    rw [Text.slice_negative text behind within]
    exact Text.slice_append_slice text (by omega)
  · intro context arguments first
    refine ⟨fun shown answered total => ?_, fun part second => ?_⟩
    · obtain ⟨start, length, held, rfl⟩ := exists_slice_of_answer answered
      refine ⟨start, length, ?_⟩
      rw [first, String.toList_ofList, String.toList_ofList, Text.slice?_eq_some total held]
    · dsimp only
      rw [renderCall_indexOf context first second, ← Text.find?_isSome_iff]
      cases found : Text.find? part text with
      | none => simp
      | some position =>
        have least := (Text.find?_places part text).1 position found
        refine ⟨iff_of_false (integerText_ne_empty position) (by simp), fun _ =>
          ⟨position, rfl, ?_, Text.exists_before least⟩⟩
        rwa [← Text.places_eq_slices]

/-- The least start and the largest length, and a part of a character of two bytes that overlaps
with itself. -/
theorem slice_and_position_overlapping :
    let context : Context :=
      { creature := { id := 1, species := "Rex" }, siblings := [], now := ⟨⟨0, 0⟩, 0⟩
        random := fun _ => "000000" }
    let text := "ßéééo".toList
    let arguments : List (Unit → Rendered) :=
      [fun _ => ⟨"ßéééo", false⟩, fun _ => ⟨"éé", false⟩]
    slice? text Binary64.minInt64 (some Binary64.maxInt64) = some text ∧
      slice text 0 (some 4) ++ slice text 4 none = text ∧
      slice text 0 (some 2) ++ slice text (-3) none = text ∧
      (context.renderCall "indexof" arguments).text = "1" ∧
      IsLeast {position : Nat | slice text position (some 2) = "éé".toList} 1 := by
  intro context text arguments
  obtain ⟨slices, split, calls⟩ := slice_and_position text
  have shown : (context.renderCall "indexof" arguments).text = Number.integerText (1 : Nat) := by
    decide +kernel
  have back : (text.length : Int) + -3 = 2 := by decide
  obtain ⟨position, same, least, -⟩ :=
    ((calls context arguments (by decide)).2 "éé".toList (by decide)).2 (by decide)
  obtain rfl : 1 = position := Number.integerText_natCast_inj (shown.symm.trans same)
  refine ⟨((slices _ _).1 (by decide) (by decide)).trans (by decide), (split 4).1 (by decide), ?_,
    shown, least⟩
  rw [← back]
  exact (split (-3)).2 (by decide) (by decide)

end CreatureNaming
