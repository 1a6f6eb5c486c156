import CreatureNaming.Proofs.Function.WrittenCalls
import CreatureNaming.Proofs.Number.IntegerTexts

/-! Calls that format an integer.

A text of an integer is taken for the integer itself if 64 bits hold it, and for the number nearest
to it otherwise, which is cut off at the limits of 64 bits. So a call shows the integer of 64 bits
that is nearest to the written one, and an error only if the written one is beyond all numbers.
-/

set_option autoImplicit false

namespace CreatureNaming

open Binary64 (IsInt64 clampInt64 leastInfinite)
open Number (IntegerText integerText)

variable {arguments : List (Unit → Rendered)} {text : String}

/-! ## The integer of a call -/

/-- The integer that a text is taken for. -/
def readInteger (text : String) : Except FunctionError Int :=
  match Number.readInt64? (Text.trim text) with
  | some value => .ok value
  | none => (Work.readNumber text).map Binary64.roundToInt

theorem answer_formatInteger (written : Text.allBlank (given arguments 0) = false) :
    Work.answer arguments Work.formatInteger =
      readInteger (given arguments 0) >>= fun value =>
        (Number.formatInteger value (Text.trim (given arguments 1))).mapError
          FunctionError.format := by
  rw [Work.formatInteger, Work.answer_bind, Work.answer_filled written, ok_bind, readInteger]
  cases Number.readInt64? (Text.trim (given arguments 0)) with
  | some value => simp [Work.formatted]
  | none =>
    cases Work.readNumber (given arguments 0) with
    | ok number => simp [Work.formatted, Except.map]
    | error error => rfl

/-- The integer nearest to a written one within 64 bits, unless the written one is beyond all
numbers. -/
theorem readInteger_chars {written : IntegerText}
    (trimmed : Text.trim text = .ofList written.chars) :
    readInteger text =
      if written.value.natAbs < leastInfinite then .ok (clampInt64 written.value)
      else .error (.notANumber (.ofList written.chars)) := by
  rw [readInteger, trimmed, Number.readInt64?_chars]
  by_cases held : IsInt64 written.value
  · rw [if_pos held, if_pos (Number.natAbs_lt_leastInfinite held),
      Binary64.clampInt64_eq_self_iff.mpr held]
  · rw [if_neg held, Work.readNumber, Number.readFinite?_integer trimmed, trimmed]
    have beyond := Binary64.nearest?_eq_none_iff (Number.ofDigits written.digits)
    rw [written.natAbs_value]
    cases found : Binary64.nearest? (Number.ofDigits written.digits) 1 with
    | none =>
      rw [if_neg (Nat.not_lt.mpr (beyond.mp found))]
      rfl
    | some magnitude =>
      have below := Nat.lt_of_not_le (mt beyond.mpr (by simp [found]))
      rw [if_pos below, ← Number.roundToInt_integer found held]
      rfl

/-! ## What a call shows -/

theorem renderCall_formatInteger (context : Context)
    (written : Text.allBlank (given arguments 0) = false)
    (letter : Text.trim (given arguments 1) = "D") :
    (context.renderCall "format_int" arguments).text =
      match readInteger (given arguments 0) with
      | .ok value => integerText value
      | .error error => "#format_int: " ++ error.message := by
  have named : Function.ofName? "format_int" = some .formatInteger := by decide
  rw [context.renderCall_text named, Function.work, answer_formatInteger written, letter]
  cases readInteger (given arguments 0) with
  | ok value =>
    rw [ok_bind, Number.formatInteger_letterD]
    rfl
  | error error => rfl

/-- What a call for the decimal text of a written integer shows. -/
def shownInteger (written : IntegerText) : String :=
  if written.value.natAbs < leastInfinite then integerText (clampInt64 written.value)
  else "#format_int: '" ++ .ofList written.chars ++ "' is not a number"

theorem allBlank_of_trim {written : IntegerText}
    (trimmed : Text.trim text = .ofList written.chars) : Text.allBlank text = false := by
  rw [← Bool.not_eq_true]
  intro blank
  rw [Text.trim, Text.trimChars, Text.trimStartChars_blank (List.all_eq_true.mp blank)] at trimmed
  have empty := String.ofList_injective trimmed
  obtain ⟨c, rest, same, -⟩ := written.head_digits
  simp [IntegerText.chars, same, Text.trimEndChars] at empty

theorem renderCall_integerText (context : Context) {written : IntegerText}
    (asked : Text.trim (given arguments 0) = .ofList written.chars)
    (letter : Text.trim (given arguments 1) = "D") :
    (context.renderCall "format_int" arguments).text = shownInteger written := by
  rw [renderCall_formatInteger context (allBlank_of_trim asked) letter, readInteger_chars asked,
    shownInteger]
  by_cases below : written.value.natAbs < leastInfinite
  · rw [if_pos below, if_pos below]
  · rw [if_neg below, if_neg below]
    have message : "#format_int: " ++ ("'" ++ String.ofList written.chars ++ "' is not a number") =
        "#format_int: '" ++ .ofList written.chars ++ "' is not a number" := by
      rw [String.append_assoc, ← String.append_assoc, ← String.append_assoc]
      rfl
    exact message

theorem integerText_ne_sentinel (value : Int) (reason : String) :
    integerText value ≠ "#format_int: " ++ reason := by
  intro same
  obtain ⟨c, rest, chars, start⟩ := Number.head_integerText value
  rw [same, String.toList_append] at chars
  obtain rfl : '#' = c := (List.cons.inj chars).1
  revert start
  decide

/-- A call shows the written integer or an error just if 64 bits hold the integer, or if it is beyond
all numbers. -/
theorem shownInteger_iff (written : IntegerText) :
    (shownInteger written = integerText written.value ∨
      ∃ reason, shownInteger written = "#format_int: " ++ reason) ↔
      IsInt64 written.value ∨ leastInfinite ≤ written.value.natAbs := by
  by_cases below : written.value.natAbs < leastInfinite
  · rw [shownInteger, if_pos below, or_iff_left (Nat.not_le.mpr below), or_iff_left,
      ← Binary64.clampInt64_eq_self_iff]
    · exact ⟨Number.integerText_inj, congrArg integerText⟩
    · rintro ⟨reason, same⟩
      exact integerText_ne_sentinel _ _ same
  · refine iff_of_true (.inr ⟨"'" ++ .ofList written.chars ++ "' is not a number", ?_⟩)
      (.inr (Nat.le_of_not_lt below))
    rw [shownInteger, if_neg below, ← String.append_assoc, ← String.append_assoc]
    rfl

/-! ## Patterns of one call -/

/-- The call that shows the decimal text of an integer. -/
def integerCall (text : String) : String := "\x7b\x7b#format_int: " ++ text ++ " | D\x7d\x7d"

/-- A call shows the decimal text of what its first argument is rendered to. -/
theorem render_integerCall (context : Context) (unique : Unique) {written : IntegerText}
    {text shown : String} (shows : context.ShowsAsArgument unique shown (' ' :: text.toList ++ [' ']))
    (trimmed : Text.trim shown = .ofList written.chars) :
    (context.render unique (Pattern.parse (integerCall text))).text = shownInteger written := by
  have call : integerCall text =
      Pattern.callText "format_int" (' ' :: text.toList ++ [' ']) [[' ', 'D']] := by
    apply String.toList_injective
    rw [Pattern.callText, String.toList_ofList, integerCall, String.toList_append,
      String.toList_append]
    simp [Pattern.argumentsText]
  have letter : context.ShowsAsArgument unique "D" [' ', 'D'] := by
    have same : Text.trim (.ofList [' ', 'D']) = "D" := by decide
    have plain : Pattern.IsPlainText [' ', 'D'] := by
      simp [Pattern.IsPlainText, Pattern.isStructural]
    exact same ▸ context.showsAsArgument_plain unique plain
  obtain ⟨arguments, called, texts⟩ := context.render_callText unique
    (by decide : Pattern.isIdentifier "format_int" = true) shows (.cons letter .nil)
  have first : given arguments 0 = shown := by
    rw [given, texts]
    rfl
  have second : given arguments 1 = "D" := by
    rw [given, texts]
    rfl
  rw [call, called]
  apply renderCall_integerText
  · rw [first, trimmed]
  · rw [second]
    decide

/-! ## Integers and identifiers -/

theorem isPlainText_chars (written : IntegerText) : Pattern.IsPlainText written.chars := by
  have structural : ∀ c ∈ ['{', '}', '|', ':', '#', '\\'],
      c.isDigit = false ∧ c ∉ Number.marks := by simp [Number.marks]
  intro c member
  rw [← Bool.not_eq_true]
  intro builds
  obtain ⟨noDigit, unmarked⟩ := structural c (by simpa [Pattern.isStructural, or_assoc] using builds)
  rcases written.numeralText.mem_chars c (written.chars_numeralText ▸ member) with digit | mark
  · rw [noDigit] at digit
    cases digit
  · exact unmarked mark

theorem trim_spaced (written : IntegerText) {before after : List Char}
    (blankBefore : ∀ c ∈ before, Text.isBlank c = true)
    (blankAfter : ∀ c ∈ after, Text.isBlank c = true) :
    Text.trim (.ofList (before ++ written.chars ++ after)) = .ofList written.chars := by
  have trimmed := Number.SpacedNumeral.trim_chars
    ⟨before, written.numeralText, after, blankBefore, blankAfter⟩
  rwa [Number.SpacedNumeral.chars, written.chars_numeralText] at trimmed

theorem trim_chars (written : IntegerText) :
    Text.trim (.ofList written.chars) = .ofList written.chars := by
  have nothing : ∀ c ∈ ([] : List Char), Text.isBlank c = true := by simp
  have trimmed := trim_spaced written nothing nothing
  rwa [List.nil_append, List.append_nil] at trimmed

theorem shows_chars (context : Context) (unique : Unique) (written : IntegerText) :
    context.ShowsAsArgument unique (.ofList written.chars) (' ' :: written.chars ++ [' ']) := by
  have blank : ∀ c ∈ [' '], Text.isBlank c = true := by simp [Text.isBlank]
  have plain : Pattern.IsPlainText ([' '] ++ written.chars ++ [' ']) := by
    intro c member
    rw [List.mem_append, List.mem_append] at member
    rcases member with (before | inside) | after
    · exact Pattern.isPlainText_of_blank blank c before
    · exact isPlainText_chars written c inside
    · exact Pattern.isPlainText_of_blank blank c after
  have shows := context.showsAsArgument_plain unique plain
  rwa [trim_spaced written blank blank] at shows

/-- The decimal text of a natural number. -/
def decimalInteger (number : Nat) : IntegerText where
  sign := .none
  digits := Number.decimalDigits number
  allDigits := fun _ => Number.isDigit_of_mem_decimalDigits
  nonempty := Number.decimalDigits_ne_nil number

theorem value_decimalInteger (number : Nat) : (decimalInteger number).value = number := by
  rw [IntegerText.value, decimalInteger, Number.ofDigits_decimalDigits]
  rfl

theorem shows_arkId (context : Context) (unique : Unique) {id : UInt64}
    (known : context.creature.arkId = some id) :
    context.ShowsAsArgument unique (.ofList (decimalInteger id.toNat).chars)
      (' ' :: "\x7barkid\x7d".toList ++ [' ']) := by
  have blank : ∀ c ∈ [' '], Text.isBlank c = true := by simp [Text.isBlank]
  have value : Token.value context .arkId = .ofList (decimalInteger id.toNat).chars := by
    rw [Token.value, known]
    exact Number.integerText_natCast id.toNat
  rw [← value]
  exact context.showsAsArgument_token unique blank blank (by decide) (by decide)

/-- A call for the decimal text of an identifier shows the identifier, cut off at the largest
integer of 64 bits. -/
theorem render_arkIdCall (context : Context) (unique : Unique) {id : UInt64}
    (known : context.creature.arkId = some id) :
    (context.render unique (Pattern.parse (integerCall "\x7barkid\x7d"))).text =
      integerText (min id.toNat Binary64.maxInt64) := by
  have small : (id.toNat : Int).natAbs < leastInfinite :=
    Nat.lt_trans id.toNat_lt (Binary64.two_pow_lt_limit (by decide))
  have cut : clampInt64 id.toNat = min (id.toNat : Int) Binary64.maxInt64 := by
    unfold clampInt64 Binary64.minInt64 Binary64.maxInt64
    omega
  rw [render_integerCall context unique (shows_arkId context unique known) (trim_chars _),
    shownInteger, value_decimalInteger, if_pos small, cut]

/-- A call with a written integer shows the integer of 64 bits that is nearest to it, unless it is
beyond all numbers, whether the integer is written in the pattern or is what an argument is rendered
to. So it shows the integer itself or an error just if 64 bits hold the integer, or if it is beyond
all numbers, and of the identifiers the ones up to the largest integer of 64 bits. -/
theorem render_integerCall_nearest (context : Context) (unique : Unique) :
    (∀ written : IntegerText,
      let shown := (context.render unique (Pattern.parse (integerCall (.ofList written.chars)))).text
      (shown = if written.value.natAbs < leastInfinite then integerText (clampInt64 written.value)
        else "#format_int: '" ++ .ofList written.chars ++ "' is not a number") ∧
      ((shown = integerText written.value ∨ ∃ reason, shown = "#format_int: " ++ reason) ↔
        IsInt64 written.value ∨ leastInfinite ≤ written.value.natAbs) ∧
      ∀ arguments, Text.trim (given arguments 0) = .ofList written.chars →
        Text.trim (given arguments 1) = "D" →
        (context.renderCall "format_int" arguments).text = shown) ∧
    ∀ id, context.creature.arkId = some id →
      (context.render unique (Pattern.parse (integerCall "\x7barkid\x7d"))).text =
        integerText (min id.toNat Binary64.maxInt64) := by
  refine ⟨fun written => ?_, fun id => render_arkIdCall context unique⟩
  have shows := shows_chars context unique written
  have shown : (context.render unique (Pattern.parse (integerCall (.ofList written.chars)))).text =
      shownInteger written := by
    refine render_integerCall context unique ?_ (trim_chars written)
    rwa [String.toList_ofList]
  intro text
  rw [show text = shownInteger written from shown]
  exact ⟨rfl, shownInteger_iff written, fun arguments => renderCall_integerText context⟩

/-- The integers at the limits of 64 bits and of the numbers, and the largest identifier. -/
theorem render_integerCall_nearest_limits :
    let context : Context :=
      { creature := { id := 1, species := "Rex", arkId := some 18446744073709551615 }, siblings := []
        now := ⟨⟨0, 0⟩, 0⟩, random := fun _ => "000000" }
    let shown (source : String) : String :=
      (context.render .placeholder (Pattern.parse (integerCall source))).text
    let arguments : List (Unit → Rendered) :=
      [fun _ => ⟨" -9223372036854775808", false⟩, fun _ => ⟨"D ", false⟩]
    shown "-9223372036854775808" = "-9223372036854775808" ∧
      (context.renderCall "format_int" arguments).text = "-9223372036854775808" ∧
      shown "\x7barkid\x7d" = "9223372036854775807" := by
  intro context shown arguments
  obtain ⟨integers, identifiers⟩ := render_integerCall_nearest context .placeholder
  let written : IntegerText := ⟨.minus, "9223372036854775808".toList, by simp, by simp⟩
  have value : written.value = Binary64.minInt64 := by decide +kernel
  have below : written.value.natAbs < leastInfinite :=
    Number.natAbs_lt_leastInfinite (value ▸ by decide)
  obtain ⟨same, -, calls⟩ := integers written
  rw [if_pos below, value] at same
  have text : integerText (clampInt64 Binary64.minInt64) = "-9223372036854775808" := by
    decide +kernel
  refine ⟨same.trans text, ?_, (identifiers _ rfl).trans (by decide +kernel)⟩
  exact (calls arguments (by decide +kernel) (by decide +kernel)).trans (same.trans text)

/-- The identifier behind the largest integer of 64 bits is shown as that integer. -/
theorem render_integerCall_saturated :
    let context : Context :=
      { creature := { id := 1, species := "Rex", arkId := some 9223372036854775808 }, siblings := []
        now := ⟨⟨0, 0⟩, 0⟩, random := fun _ => "000000" }
    let shown := (context.render .placeholder (Pattern.parse (integerCall "\x7barkid\x7d"))).text
    shown = "9223372036854775807" ∧ shown ≠ integerText 9223372036854775808 ∧
      ∀ reason, shown ≠ "#format_int: " ++ reason := by
  intro context shown
  have same : shown = integerText 9223372036854775807 := render_arkIdCall context .placeholder rfl
  refine ⟨same.trans (by decide +kernel), ?_, fun reason => ?_⟩
  · rw [same]
    exact mt Number.integerText_inj (by decide)
  · rw [same]
    exact integerText_ne_sentinel _ reason

end CreatureNaming
