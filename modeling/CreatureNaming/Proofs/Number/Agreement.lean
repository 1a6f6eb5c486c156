import CreatureNaming.Proofs.Number.Integers
import CreatureNaming.Proofs.Number.SectionLayout
import CreatureNaming.Proofs.Number.Sections

/-! Standard formats as custom formats.

A standard format with a number of places shows every number like the custom format with that many
zeros behind the point. Both take the digits from the same rounded number; the one puts the commas
into its text, the other lays the digits out one by one.
-/

set_option autoImplicit false

namespace CreatureNaming.Number

open Binary64 (Magnitude)

variable {grouping percent : Bool} {places printed : Nat} {whole fraction digits : List Char}
  {items : List FormatItem}

/-- A custom format with a number of zeros behind the point. -/
def placesFormat (whole : String) (places : Nat) (tail : String) : String :=
  .ofList (whole.toList ++ (pointed (List.replicate places '0') ++ tail.toList))

/-! ## Grouping -/

theorem groupedDigits_append (printed : Nat) (first second : List Char) :
    groupedDigits grouping printed (first ++ second) =
      groupedDigits grouping printed first ++
        groupedDigits grouping (printed + first.length) second := by
  induction first generalizing printed with
  | nil => rfl
  | cons digit rest ih =>
    rw [List.cons_append, groupedDigits, groupedDigits, ih, List.length_cons, List.append_assoc,
      Nat.add_assoc, Nat.add_comm 1]
    rfl

theorem groupedDigits_false (printed : Nat) (digits : List Char) :
    groupedDigits false printed digits = digits := by
  induction digits generalizing printed with
  | nil => rfl
  | cons digit rest ih => exact congrArg (digit :: ·) (ih (printed + 1))

/-- Digits that are grouped from right to left are grouped like those from left to right. -/
theorem reverse_groupedDigits (digits : List Char) :
    (groupedDigits true 0 digits.reverse).reverse = groupDigits digits := by
  induction digits with
  | nil => rfl
  | cons first rest ih =>
    rw [List.reverse_cons, groupedDigits_append, List.reverse_append, ih, groupDigits,
      List.length_reverse, Nat.zero_add]
    cases rest with
    | nil => rfl
    | cons second rest =>
      simp only [groupedDigits, List.length_cons, List.isEmpty_cons, Bool.true_and, Bool.not_false,
        Bool.and_true, Bool.and_eq_true, bne_iff_ne, ne_eq, decide_eq_true_eq, beq_iff_eq,
        Nat.succ_ne_zero, not_false_eq_true, true_and]
      split <;> rfl

/-- Placeholders that nothing stands between show their digits like any others. -/
theorem layoutWhole_unshown (grouping : Bool) (unshown : ∀ item ∈ items, item.isShown = false)
    (printed : Nat) (digits : List Char) :
    layoutWhole grouping printed items digits =
      if items.any FormatItem.isDigit then (groupedDigits grouping printed digits, [])
      else ([], digits) := by
  induction items generalizing printed digits with
  | nil => rfl
  | cons item items ih =>
    obtain ⟨plain, rest⟩ := List.forall_mem_cons.mp unshown
    cases item with
    | digit always =>
      rw [List.any_cons, FormatItem.isDigit, Bool.true_or, if_pos rfl]
      cases more : items.any FormatItem.isDigit with
      | true =>
        simp only [layoutWhole, more, if_true, ih rest]
        rw [← groupedDigits_append, List.take_append_drop]
      | false =>
        simp only [layoutWhole, more, Bool.false_eq_true, if_false, ih rest, List.append_nil]
    | percent => cases plain
    | literal text => cases plain
    | comma => exact ih rest printed digits
    | point => exact ih rest printed digits

/-! ## The parts of a format with places -/

def digitItems (grouping : Bool) : List FormatItem :=
  if grouping then [.digit false, .comma, .digit false, .digit false, .digit true]
  else [.digit true]

def pointItems (places : Nat) : List FormatItem :=
  if places = 0 then [] else .point :: List.replicate places (.digit true)

def percentItems (percent : Bool) : List FormatItem := if percent then [.percent] else []

def digitFormat (grouping : Bool) : String := if grouping then "#,##0" else "0"

def percentFormat (percent : Bool) : String := if percent then "%" else ""

theorem formatItems_zeros (pointSeen : Bool) (places : Nat) (rest : List Char) :
    formatItems pointSeen (List.replicate places '0' ++ rest) =
      List.replicate places (.digit true) ++ formatItems pointSeen rest := by
  induction places with
  | zero => rfl
  | succ places ih => simp [List.replicate_succ, formatItems, ih]

theorem formatItems_placesFormat (grouping percent : Bool) (places : Nat) :
    formatItems false
        (placesFormat (digitFormat grouping) places (percentFormat percent)).toList =
      digitItems grouping ++ (pointItems places ++ percentItems percent) := by
  have tail (pointSeen : Bool) :
      formatItems pointSeen (percentFormat percent).toList = percentItems percent := by
    cases percent <;> simp [percentFormat, percentItems, formatItems]
  have behind : formatItems false
      (pointed (List.replicate places '0') ++ (percentFormat percent).toList) =
        pointItems places ++ percentItems percent := by
    cases places with
    | zero => exact tail false
    | succ places =>
      rw [pointed_of_ne_nil (by simp), List.cons_append, ← tail true, pointItems, if_neg (by simp),
        List.cons_append, ← formatItems_zeros]
      simp [formatItems]
  rw [placesFormat, String.toList_ofList, ← behind]
  cases grouping <;> simp [digitFormat, digitItems, formatItems]

theorem layoutWhole_digitItems (grouping percent : Bool) (digits : List Char) :
    layoutWhole grouping 0 (digitItems grouping ++ percentItems percent).reverse digits =
      ((percentFormat percent).toList ++ groupedDigits grouping 0 digits, []) := by
  have unshown : ∀ item ∈ (digitItems grouping).reverse, item.isShown = false := by
    cases grouping <;> decide
  have placeholder : (digitItems grouping).reverse.any FormatItem.isDigit = true := by
    cases grouping <;> rfl
  have plain := layoutWhole_unshown grouping unshown 0 digits
  rw [if_pos placeholder] at plain
  cases percent with
  | false => rw [percentItems, if_neg Bool.false_ne_true, List.append_nil, plain]; rfl
  | true =>
    rw [percentItems, if_pos rfl, List.reverse_append, List.reverse_singleton,
      List.singleton_append, layoutWhole, plain]
    rfl

theorem layoutFraction_zeros (room : fraction.length ≤ places) (items : List FormatItem) :
    layoutFraction (List.replicate places (.digit true) ++ items) fraction =
      fraction ++ layoutFraction items [] := by
  induction places generalizing fraction with
  | zero =>
    obtain rfl := List.eq_nil_of_length_eq_zero (Nat.le_zero.mp room)
    rfl
  | succ places ih =>
    rw [List.replicate_succ, List.cons_append, layoutFraction]
    cases fraction with
    | nil => exact ih (Nat.zero_le _)
    | cons digit rest => exact congrArg (digit :: ·) (ih (Nat.le_of_succ_le_succ room))

theorem dropZeros_of_length_le (room : fraction.length ≤ places) :
    dropZeros places fraction = fraction := by
  rw [dropZeros, List.take_of_length_le room, List.drop_of_length_le room]
  exact List.append_nil fraction

theorem filter_isDigit_zeros (percent : Bool) (places : Nat) :
    (List.replicate places (FormatItem.digit true) ++ percentItems percent).filter
        FormatItem.isDigit =
      List.replicate places (.digit true) := by
  have none : (percentItems percent).filter FormatItem.isDigit = [] := by cases percent <;> rfl
  rw [List.filter_append, none, List.append_nil, List.filter_replicate_of_pos rfl]

theorem leastFraction_zeros (percent : Bool) (places : Nat) :
    leastFraction (List.replicate places (.digit true) ++ percentItems percent) = places := by
  have keeps : (List.replicate places (FormatItem.digit true)).dropWhile (· == .digit false) =
      List.replicate places (.digit true) := by cases places <;> rfl
  rw [leastFraction, filter_isDigit_zeros, List.reverse_replicate, keeps, List.length_replicate]

/-- Without places the percent sign belongs to the whole part. -/
theorem wholeItems_places (grouping percent : Bool) (places : Nat) :
    wholeItems (digitItems grouping ++ (pointItems places ++ percentItems percent)) =
      digitItems grouping ++ percentItems (percent && places == 0) := by
  cases places with
  | zero => cases grouping <;> cases percent <;> rfl
  | succ places => cases grouping <;> cases percent <;> rfl

theorem fractionItems_places (grouping percent : Bool) (places : Nat) :
    fractionItems (digitItems grouping ++ (pointItems places ++ percentItems percent)) =
      List.replicate places (.digit true) ++ percentItems (percent && places != 0) := by
  cases places with
  | zero => cases grouping <;> cases percent <;> rfl
  | succ places => cases grouping <;> cases percent <;> rfl

theorem count_percent (grouping percent : Bool) (places : Nat) :
    (digitItems grouping ++ (pointItems places ++ percentItems percent)).count .percent =
      if percent then 1 else 0 := by
  have zeros : (pointItems places).count .percent = 0 := by
    rw [List.count_eq_zero, pointItems]
    split <;> simp
  rw [List.count_append, List.count_append, zeros]
  cases grouping <;> cases percent <;> rfl

/-! ## The text of a section with places -/

/-- The digits of a number with at most a number of places, or the word for what is infinite. -/
structure AreParts (places : Nat) (whole fraction : List Char) : Prop where
  noPoint : ∀ c ∈ whole, c ≠ '.'
  unsigned : whole.head? ≠ some '-'
  leading : zeroPad 1 (whole.dropWhile (· == '0')) = whole
  room : fraction.length ≤ places

theorem ArePlaced.areParts (placed : ArePlaced places whole fraction) :
    AreParts places whole fraction := by
  refine ⟨placed.noPoint, placed.unsigned, ?_, placed.length.le⟩
  cases split : whole with
  | nil => exact absurd split placed.nonempty
  | cons first rest =>
    by_cases zero : first = '0'
    · subst zero
      cases rest with
      | nil => rfl
      | cons second rest => exact absurd split (placed.leading second rest)
    · rw [List.dropWhile_cons_of_neg (by simpa using zero)]
      exact zeroPad_of_le (Nat.succ_le_succ (Nat.zero_le _))

def groupWhole (grouping : Bool) (digits : List Char) : List Char :=
  if grouping then groupDigits digits else digits

theorem reverse_groupWhole (grouping : Bool) (digits : List Char) :
    (groupedDigits grouping 0 digits.reverse).reverse = groupWhole grouping digits := by
  cases grouping with
  | false => rw [groupedDigits_false, List.reverse_reverse]; rfl
  | true => exact reverse_groupedDigits digits

theorem renderSection_places (grouping percent negative : Bool) {value : Binary64}
    (parts : AreParts places whole fraction)
    (written : fixed (if percent then value.mul (.ofNat 100) else value) places =
      whole ++ pointed fraction) :
    renderSection (placesFormat (digitFormat grouping) places (percentFormat percent)).toList value
        negative =
      signText (negative && (whole ++ fraction).any (· != '0')) ++
        (groupWhole grouping whole ++ (pointed fraction ++ (percentFormat percent).toList)) := by
  obtain ⟨before, behind⟩ := split_pointed parts.noPoint fraction
  have plain : ∀ grouping percent,
      thousands (digitItems grouping ++ percentItems percent) = 0 ∧
        groups (digitItems grouping ++ percentItems percent) = grouping ∧
        leastWhole (digitItems grouping ++ percentItems percent) = 1 := by decide
  obtain ⟨noThousands, isGrouping, oneDigit⟩ := plain grouping (percent && places == 0)
  have scaled : scaleBy (if percent then 1 else 0) 0 value =
      if percent then value.mul (.ofNat 100) else value := by cases percent <;> rfl
  have tail : layoutFraction (percentItems (percent && places != 0)) [] =
      (percentFormat (percent && places != 0)).toList := by
    cases percent && places != 0 <;> rfl
  simp only [renderSection, formatItems_placesFormat, wholeItems_places, fractionItems_places,
    count_percent, noThousands, isGrouping, oneDigit, filter_isDigit_zeros, List.length_replicate,
    scaled, written, before, behind, drop_pointed, leastFraction_zeros,
    dropZeros_of_length_le parts.room, parts.leading, layoutWhole_digitItems,
    layoutFraction_zeros parts.room, tail]
  rw [ite_self, groupedDigits, List.append_nil, List.reverse_append, reverse_groupWhole]
  have shown : (if fraction.isEmpty then [] else ['.']) ++ fraction = pointed fraction := by
    cases fraction <;> rfl
  cases places with
  | zero =>
    -- The percent sign has been laid out behind the last digit of the whole part.
    obtain rfl := List.eq_nil_of_length_eq_zero (Nat.le_zero.mp parts.room)
    cases percent <;> simp [signText, pointed, percentFormat]
  | succ places =>
    rw [← shown]
    cases percent <;> simp [signText, percentFormat]

/-! ## Both formats -/

/-- The parts of a number that is shown with places, or as a percentage; they do not depend on its
sign. -/
theorem exists_parts_scaled (percent : Bool) (magnitude : Magnitude) (places : Nat) :
    ∃ whole fraction, AreParts places whole fraction ∧
      (magnitude = .zero → (whole ++ fraction).any (· != '0') = false) ∧
      ∀ negative,
        fixed (if percent then (Binary64.finite negative magnitude).mul (.ofNat 100)
            else .finite negative magnitude) places =
          signText (negative && (whole ++ fraction).any (· != '0')) ++
            (whole ++ pointed fraction) := by
  cases percent with
  | false =>
    obtain ⟨whole, fraction, placed, zeros, written⟩ := exists_fixed magnitude places
    exact ⟨whole, fraction, placed.areParts, zeros, written⟩
  | true =>
    obtain ⟨hundred, isHundred, -⟩ := Binary64.exists_integer (show 100 < 2 ^ 53 by decide)
    simp only [Binary64.ofNat, Binary64.ofRatio_of_nearest? false isHundred, if_true]
    have zeroTimes : Magnitude.times? .zero hundred = some .zero := by
      rw [Magnitude.times?, Magnitude.zero_numerator, Nat.zero_mul]
      rfl
    cases product : magnitude.times? hundred with
    | some scaled =>
      obtain ⟨whole, fraction, placed, zeros, written⟩ := exists_fixed scaled places
      refine ⟨whole, fraction, placed.areParts, ?_, fun negative => ?_⟩
      · rintro rfl
        exact zeros (Option.some.inj (product.symm.trans zeroTimes))
      · rw [Binary64.mul_finite negative product, written]
    | none =>
      -- A hundredfold that is too large is infinite.
      refine ⟨['i', 'n', 'f'], [], ⟨by simp, by simp, rfl, Nat.zero_le _⟩, ?_, ?_⟩
      · rintro rfl
        cases product.symm.trans zeroTimes
      · intro negative
        rw [Binary64.mul_infinite negative product, fixed, roundHalfAway_infinite]
        cases negative <;> rfl

theorem grouped_signText (negative : Bool) (parts : AreParts places whole fraction) :
    grouped (signText negative ++ (whole ++ pointed fraction)) =
      signText negative ++ (groupDigits whole ++ pointed fraction) := by
  obtain ⟨before, behind⟩ := split_pointed parts.noPoint fraction
  cases negative with
  | true => simp [grouped, signText, before, behind]
  | false =>
    have unsigned : ∀ rest, whole ++ pointed fraction ≠ '-' :: rest := by
      intro rest sign
      cases split : whole with
      | nil => exact absurd (split ▸ parts.leading) (by decide)
      | cons first others =>
        rw [split] at sign
        exact parts.unsigned (by rw [split]; exact congrArg some (List.cons.inj sign).1)
    simp [grouped, signText, before, behind]

/-- Whether a character neither ends a section nor protects others. -/
def isPlain (c : Char) : Bool := c != '\\' && c != ';' && !isQuote c

theorem splitSections_plain {text : List Char} (plain : text.all isPlain = true) :
    splitSections none text = [text] := by
  induction text with
  | nil => rfl
  | cons c rest ih =>
    simp only [List.all_cons, isPlain, Bool.and_eq_true, bne_iff_ne, ne_eq, Bool.not_eq_true']
      at plain
    obtain ⟨⟨⟨noEscape, noEnd⟩, noQuote⟩, plain⟩ := plain
    rw [splitSections_outside (fun escape => absurd escape noEscape), if_neg noEnd, noQuote,
      if_neg Bool.false_ne_true, ih plain]
    rfl

theorem splitSections_placesFormat (grouping percent : Bool) (places : Nat) :
    splitSections none
        (placesFormat (digitFormat grouping) places (percentFormat percent)).toList =
      [(placesFormat (digitFormat grouping) places (percentFormat percent)).toList] := by
  have zeros : (pointed (List.replicate places '0')).all isPlain = true := by
    rw [List.all_eq_true]
    intro c member
    obtain rfl | zero := mem_pointed member
    · rfl
    · rw [List.eq_of_mem_replicate zero]
      rfl
  apply splitSections_plain
  rw [placesFormat, String.toList_ofList, List.all_append, List.all_append, zeros]
  cases grouping <;> cases percent <;> rfl

/-- A format with places has no section for negative numbers or for zero. -/
theorem customText_places (grouping percent negative : Bool) (places : Nat)
    (magnitude : Magnitude) :
    customText (.finite negative magnitude)
        (placesFormat (digitFormat grouping) places (percentFormat percent)).toList =
      renderSection (placesFormat (digitFormat grouping) places (percentFormat percent)).toList
        (.finite false magnitude) (negative && magnitude.numerator != 0) := by
  simp only [customText, specialText?, splitSections_placesFormat, Binary64.less_zero_finite,
    Binary64.abs]
  cases negative && magnitude.numerator != 0
  · cases Binary64.isZero (.finite negative magnitude) <;> rfl
  · rfl

theorem formatNumber_custom (value : Binary64) (grouping percent : Bool) (places : Nat) :
    formatNumber value (placesFormat (digitFormat grouping) places (percentFormat percent)) =
      .ok (.ofList (customText value
        (placesFormat (digitFormat grouping) places (percentFormat percent)).toList)) := by
  have first : ∃ c rest, c.isAlpha = false ∧
      (placesFormat (digitFormat grouping) places (percentFormat percent)).toList = c :: rest := by
    rw [placesFormat, String.toList_ofList]
    cases grouping
    · exact ⟨'0', _, rfl, rfl⟩
    · exact ⟨'#', _, rfl, rfl⟩
  obtain ⟨c, rest, noLetter, text⟩ := first
  have custom : standardFormat? (c :: rest) = none := by simp [standardFormat?, noLetter]
  simp only [formatNumber, text, List.isEmpty_cons, Bool.false_eq_true, if_false, custom]

/-- A letter that shows a rounded number, grouped or as a percentage if it is asked for, shows it
like the custom format that asks for the same. -/
theorem formatNumber_agrees (value : Binary64) {letter : Char} (isLetter : letter.isAlpha = true)
    (few : places < 100) (grouping percent : Bool)
    (shows : ∀ negative magnitude format,
      standardText (.finite negative magnitude) letter (some places) format =
        .ok ((if grouping then grouped else id)
          (fixed (if percent then (Binary64.finite negative magnitude).mul (.ofNat 100)
            else .finite negative magnitude) places) ++ (percentFormat percent).toList)) :
    ∃ text, formatNumber value (standardFormat letter (some places)) = .ok text ∧
      formatNumber value (placesFormat (digitFormat grouping) places (percentFormat percent)) =
        .ok text := by
  rw [formatNumber_standard value isLetter few, formatNumber_custom]
  refine ⟨_, ?_, rfl⟩
  cases value with
  | nan => rfl
  | infinite negative => cases negative <;> rfl
  | finite negative magnitude =>
    obtain ⟨whole, fraction, parts, zeros, written⟩ :=
      exists_parts_scaled percent magnitude places
    have unsigned := written false
    rw [Bool.false_and, signText, if_neg Bool.false_ne_true, List.nil_append] at unsigned
    -- The sign of a zero is dropped by its digits on one side and by the comparison on the other.
    have sign : (negative && magnitude.numerator != 0 && (whole ++ fraction).any (· != '0')) =
        (negative && (whole ++ fraction).any (· != '0')) := by
      by_cases none : magnitude.numerator = 0
      · rw [zeros (magnitude.eq_zero_of_numerator none), Bool.and_false, Bool.and_false]
      · rw [bne_iff_ne.mpr none, Bool.and_true]
    have layout (signed : Bool) :
        (if grouping then grouped else id) (signText signed ++ (whole ++ pointed fraction)) =
          signText signed ++ (groupWhole grouping whole ++ pointed fraction) := by
      cases grouping with
      | false => rfl
      | true => exact grouped_signText signed parts
    rw [shows, written, layout, customText_places,
      renderSection_places grouping percent _ parts unsigned, sign, List.append_assoc,
      List.append_assoc]
    rfl

/-- A number is shown by F like by `0`, by N like by `#,##0` and by P like by `#,##0%`, with as
many zeros behind the point as the precision says. -/
theorem formatNumber_standard_custom (value : Binary64) (few : places < 100) :
    (∃ text, formatNumber value (standardFormat 'F' (some places)) = .ok text ∧
      formatNumber value (placesFormat "0" places "") = .ok text) ∧
    (∃ text, formatNumber value (standardFormat 'N' (some places)) = .ok text ∧
      formatNumber value (placesFormat "#,##0" places "") = .ok text) ∧
    (∃ text, formatNumber value (standardFormat 'P' (some places)) = .ok text ∧
      formatNumber value (placesFormat "#,##0" places "%") = .ok text) := by
  refine ⟨?_, ?_, ?_⟩
  · exact formatNumber_agrees value (by decide) few false false fun _ _ _ => by
      simp [standardText, specialText?, percentFormat]
  · exact formatNumber_agrees value (by decide) few true false fun _ _ _ => by
      simp [standardText, specialText?, percentFormat]
  · exact formatNumber_agrees value (by decide) few true true fun _ _ _ => by
      simp [standardText, specialText?, percentFormat]

theorem formatNumber_standard_custom_negative :
    (∃ text, formatNumber (.ofRatio true 2469 2) "F2" = .ok text ∧
      formatNumber (.ofRatio true 2469 2) "0.00" = .ok text) ∧
    (∃ text, formatNumber (.ofRatio true 2469 2) "N2" = .ok text ∧
      formatNumber (.ofRatio true 2469 2) "#,##0.00" = .ok text) ∧
    (∃ text, formatNumber (.ofRatio true 2469 2) "P2" = .ok text ∧
      formatNumber (.ofRatio true 2469 2) "#,##0.00%" = .ok text) := by
  have standard : standardFormat 'F' (some 2) = "F2" ∧ standardFormat 'N' (some 2) = "N2" ∧
      standardFormat 'P' (some 2) = "P2" := by decide
  have custom : placesFormat "0" 2 "" = "0.00" ∧ placesFormat "#,##0" 2 "" = "#,##0.00" ∧
      placesFormat "#,##0" 2 "%" = "#,##0.00%" := by decide
  have agree := formatNumber_standard_custom (.ofRatio true 2469 2) (show 2 < 100 by decide)
  rwa [standard.1, standard.2.1, standard.2.2, custom.1, custom.2.1, custom.2.2] at agree

end CreatureNaming.Number
