import CreatureNaming.Number.Format.Custom
import CreatureNaming.Proofs.Number.Fixed
import Mathlib.Data.List.DropRight

/-! Layouts of custom sections.

A number that is laid out by a section consists of the digits of the rounded number, of the
literals and percent signs of the section, and of commas between the digits of the whole part.
The whole part is laid out from right to left, so what is known of its stretches is stated in that
order first.
-/

set_option autoImplicit false

namespace CreatureNaming.Number

/-- A stretch of a number that is laid out. -/
inductive LayoutPart where
  | sign
  | whole (digit : Char)
  | comma
  | point
  | fraction (digit : Char)
  | percent
  | literal (text : List Char)
  deriving DecidableEq

namespace LayoutPart

def text : LayoutPart → List Char
  | sign => ['-']
  | whole digit => [digit]
  | comma => [',']
  | point => ['.']
  | fraction digit => [digit]
  | percent => ['%']
  | literal text => text

/-- Whether a stretch shows a part of the number itself. -/
def isNumber : LayoutPart → Bool
  | comma => false
  | percent => false
  | literal _ => false
  | _ => true

/-- The item that a stretch shows, if it shows nothing of the number. -/
def item? : LayoutPart → Option FormatItem
  | percent => some .percent
  | literal text => some (.literal text)
  | _ => none

def isWhole : LayoutPart → Bool
  | whole _ => true
  | _ => false

end LayoutPart

def signParts (negative : Bool) : List LayoutPart := if negative then [.sign] else []

/-- A point, if there are digits to stand behind it. -/
def pointParts (digits : List Char) : List LayoutPart := if digits.isEmpty then [] else [.point]

/-- An item that is shown as it stands. -/
def FormatItem.isShown : FormatItem → Bool
  | .percent => true
  | .literal _ => true
  | _ => false

variable {grouping : Bool} {printed : Nat} {part : LayoutPart} {parts ahead : List LayoutPart}
  {items : List FormatItem} {digits : List Char}

/-! ## Commas from right to left -/

/-- Whether a comma is due in front of a number of digits. -/
def CommaDue (grouping : Bool) (printed : Nat) : Prop := grouping = true ∧ 0 < printed ∧ 3 ∣ printed

/-- From right to left a comma stands in front of a digit exactly where one is due, `printed`
digits being to the right of all the parts. -/
def CommasFrom (grouping : Bool) (printed : Nat) (parts : List LayoutPart) : Prop :=
  ∀ behind ahead, parts = behind ++ ahead →
    (behind.getLast? = some .comma ↔
      (∃ digit, ahead.head? = some (.whole digit)) ∧
        CommaDue grouping (printed + behind.countP LayoutPart.isWhole))

theorem commasFrom_nil : CommasFrom grouping printed [] := by
  intro behind ahead split
  obtain ⟨rfl, rfl⟩ := List.append_eq_nil_iff.mp split.symm
  simp

theorem countP_isWhole_cons (part : LayoutPart) (behind : List LayoutPart) :
    printed + (part :: behind).countP LayoutPart.isWhole =
      printed + [part].countP LayoutPart.isWhole + behind.countP LayoutPart.isWhole := by
  rw [← List.singleton_append, List.countP_append, Nat.add_assoc]

/-- A stretch that is no comma leaves the others as they stand. -/
theorem CommasFrom.cons (other : part ≠ .comma)
    (notDue : part.isWhole = true → ¬ CommaDue grouping printed)
    (later : CommasFrom grouping (printed + [part].countP LayoutPart.isWhole) parts) :
    CommasFrom grouping printed (part :: parts) := by
  intro behind ahead split
  cases behind with
  | nil =>
    rw [List.nil_append] at split
    subst split
    refine iff_of_false nofun ?_
    rintro ⟨⟨digit, first⟩, due⟩
    obtain rfl := Option.some.inj first
    exact notDue rfl due
  | cons first behind =>
    obtain ⟨rfl, rfl⟩ := List.cons.inj split
    have last : (part :: behind).getLast? = some .comma ↔ behind.getLast? = some .comma := by
      rw [List.getLast?_cons]
      cases behind.getLast? <;> simp [other]
    rw [last, countP_isWhole_cons]
    exact later behind ahead rfl

/-- A comma that is due stands directly in front of a digit. -/
theorem CommasFrom.comma_digit {digit : Char} (due : CommaDue grouping printed)
    (later : CommasFrom grouping (printed + 1) parts) :
    CommasFrom grouping printed (.comma :: .whole digit :: parts) := by
  rintro (_ | ⟨first, _ | ⟨second, behind⟩⟩) ahead split
  · rw [List.nil_append] at split
    subst split
    refine iff_of_false nofun ?_
    rintro ⟨⟨digit, first⟩, -⟩
    cases first
  · obtain ⟨rfl, rfl⟩ := List.cons.inj split
    exact iff_of_true rfl ⟨⟨digit, rfl⟩, due⟩
  · rw [List.cons_append, List.cons_append, List.cons.injEq, List.cons.injEq] at split
    obtain ⟨rfl, rfl, rfl⟩ := split
    have last : (LayoutPart.comma :: .whole digit :: behind).getLast? = some .comma ↔
        behind.getLast? = some .comma := by
      rw [List.getLast?_cons, List.getLast?_cons]
      cases behind.getLast? <;> simp
    rw [last, countP_isWhole_cons, countP_isWhole_cons]
    exact later behind ahead rfl

/-! ## The whole part -/

/-- Stretches of a whole part from right to left, `printed` digits being to the right of them: they
show a text, take digits of the number and show the items that are no placeholders. -/
structure LaysOut (grouping : Bool) (printed : Nat) (items : List FormatItem)
    (text taken : List Char) (parts : List LayoutPart) : Prop where
  text : parts.flatMap (fun part => part.text.reverse) = text
  number : parts.filter LayoutPart.isNumber = taken.map .whole
  items : parts.filterMap LayoutPart.item? = items.filter FormatItem.isShown
  commas : ∀ ahead, CommasFrom grouping (printed + taken.length) ahead →
    CommasFrom grouping printed (parts ++ ahead)

theorem LaysOut.nil : LaysOut grouping printed [] [] [] [] := ⟨rfl, rfl, rfl, fun _ stand => stand⟩

theorem LaysOut.append {moreItems : List FormatItem} {text moreText taken more : List Char}
    {moreParts : List LayoutPart} (first : LaysOut grouping printed items text taken parts)
    (second : LaysOut grouping (printed + taken.length) moreItems moreText more moreParts) :
    LaysOut grouping printed (items ++ moreItems) (text ++ moreText) (taken ++ more)
      (parts ++ moreParts) := by
  refine ⟨?_, ?_, ?_, fun ahead stand => ?_⟩
  · rw [List.flatMap_append, first.text, second.text]
  · rw [List.filter_append, first.number, second.number, List.map_append]
  · rw [List.filterMap_append, first.items, second.items, List.filter_append]
  · rw [List.append_assoc]
    apply first.commas
    apply second.commas
    rwa [Nat.add_assoc, ← List.length_append]

theorem laysOut_literal (text : List Char) :
    LaysOut grouping printed [.literal text] text.reverse [] [.literal text] :=
  ⟨by simp [LayoutPart.text], rfl, rfl, fun _ stand => stand.cons nofun nofun⟩

theorem laysOut_percent : LaysOut grouping printed [.percent] ['%'] [] [.percent] :=
  ⟨rfl, rfl, rfl, fun _ stand => stand.cons nofun nofun⟩

theorem laysOut_unshown {item : FormatItem} (unshown : item.isShown = false) :
    LaysOut grouping printed [item] [] [] [] :=
  ⟨rfl, rfl, by simp [unshown], fun _ stand => stand⟩

theorem exists_digitParts (grouping : Bool) (printed : Nat) (digits : List Char) :
    ∃ parts, LaysOut grouping printed [] (groupedDigits grouping printed digits) digits parts := by
  induction digits generalizing printed with
  | nil => exact ⟨[], .nil⟩
  | cons digit rest ih =>
    obtain ⟨parts, later⟩ := ih (printed + 1)
    have due : (grouping && printed != 0 && printed % 3 == 0) = true ↔
        CommaDue grouping printed := by
      simp [CommaDue, Nat.pos_iff_ne_zero, Nat.dvd_iff_mod_eq_zero, and_assoc]
    -- A digit brings along the comma that stands to the right of it.
    have one : LaysOut grouping printed []
        ((if grouping && printed != 0 && printed % 3 == 0 then [','] else []) ++ [digit]) [digit]
        ((if grouping && printed != 0 && printed % 3 == 0 then [.comma] else []) ++
          [.whole digit]) := by
      split
      · next comma =>
        exact ⟨rfl, rfl, rfl, fun _ stand => stand.comma_digit (due.mp comma)⟩
      · next noComma =>
        have notDue : ¬ CommaDue grouping printed := fun comma => noComma (due.mpr comma)
        exact ⟨rfl, rfl, rfl, fun _ stand => stand.cons nofun fun _ => notDue⟩
    have both := one.append later
    rw [List.append_assoc] at both
    exact ⟨_, both⟩

/-- The whole part loses no item, and the digits that it does not take are left over. -/
theorem exists_layoutWhole (grouping : Bool) (printed : Nat) (items : List FormatItem)
    (digits : List Char) :
    ∃ parts taken, taken ++ (layoutWhole grouping printed items digits).2 = digits ∧
      LaysOut grouping printed items (layoutWhole grouping printed items digits).1 taken parts := by
  induction items generalizing printed digits with
  | nil => exact ⟨[], [], rfl, .nil⟩
  | cons item items ih =>
    cases item with
    | digit always =>
      -- The digits are those that the placeholder takes and those that it leaves to the others.
      have dealt : (if items.any FormatItem.isDigit then digits.take 1 else digits) ++
          (if items.any FormatItem.isDigit then digits.drop 1 else []) = digits := by
        split
        · exact List.take_append_drop 1 digits
        · exact List.append_nil digits
      simp only [layoutWhole]
      generalize (if items.any FormatItem.isDigit then digits.take 1 else digits) = now at dealt ⊢
      generalize (if items.any FormatItem.isDigit then digits.drop 1 else []) = left at dealt ⊢
      obtain ⟨first, shown⟩ := exists_digitParts grouping printed now
      obtain ⟨parts, taken, all, later⟩ := ih (printed + now.length) left
      refine ⟨_, now ++ taken, ?_, ((laysOut_unshown rfl).append shown).append later⟩
      rw [List.append_assoc, all, dealt]
    | percent =>
      obtain ⟨parts, taken, all, later⟩ := ih printed digits
      exact ⟨_, taken, all, laysOut_percent.append later⟩
    | literal text =>
      obtain ⟨parts, taken, all, later⟩ := ih printed digits
      exact ⟨_, taken, all, (laysOut_literal text).append later⟩
    | comma =>
      obtain ⟨parts, taken, all, later⟩ := ih printed digits
      exact ⟨_, taken, all, (laysOut_unshown rfl).append later⟩
    | point =>
      obtain ⟨parts, taken, all, later⟩ := ih printed digits
      exact ⟨_, taken, all, (laysOut_unshown rfl).append later⟩

/-- The leftmost placeholder takes all digits that remain. -/
theorem layoutWhole_left (grouping : Bool) (printed : Nat) (items : List FormatItem)
    (digits : List Char) :
    (layoutWhole grouping printed items digits).2 =
      if items.any FormatItem.isDigit then [] else digits := by
  induction items generalizing printed digits with
  | nil => rfl
  | cons item items ih =>
    cases item with
    | digit always =>
      rw [layoutWhole, List.any_cons, FormatItem.isDigit, Bool.true_or, if_pos rfl, ih]
      split <;> rfl
    | percent => exact ih printed digits
    | literal text => exact ih printed digits
    | comma => exact ih printed digits
    | point => exact ih printed digits

/-! ## The fraction -/

/-- The fraction shows its digits one by one, as far as they reach, and its items. -/
theorem exists_layoutFraction (items : List FormatItem) (digits : List Char)
    (room : digits.length ≤ (items.filter FormatItem.isDigit).length) :
    ∃ parts : List LayoutPart, parts.flatMap LayoutPart.text = layoutFraction items digits ∧
      parts.filter LayoutPart.isNumber = digits.map .fraction ∧
      parts.filterMap LayoutPart.item? = items.filter FormatItem.isShown ∧
      ∀ part ∈ parts, part ≠ .comma ∧ part.isWhole = false := by
  induction items generalizing digits with
  | nil =>
    obtain rfl := List.eq_nil_of_length_eq_zero (Nat.le_zero.mp room)
    exact ⟨[], rfl, rfl, rfl, nofun⟩
  | cons item items ih =>
    cases item with
    | digit always =>
      cases digits with
      | nil =>
        obtain ⟨parts, shown, number, listed, plain⟩ := ih [] (Nat.zero_le _)
        exact ⟨parts, shown, number, listed, plain⟩
      | cons digit rest =>
        obtain ⟨parts, shown, number, listed, plain⟩ := ih rest (Nat.le_of_succ_le_succ room)
        refine ⟨.fraction digit :: parts, congrArg _ shown, congrArg _ number, listed, ?_⟩
        exact List.forall_mem_cons.mpr ⟨⟨nofun, rfl⟩, plain⟩
    | percent =>
      obtain ⟨parts, shown, number, listed, plain⟩ := ih digits room
      refine ⟨.percent :: parts, congrArg _ shown, number, congrArg _ listed, ?_⟩
      exact List.forall_mem_cons.mpr ⟨⟨nofun, rfl⟩, plain⟩
    | literal text =>
      obtain ⟨parts, shown, number, listed, plain⟩ := ih digits room
      refine ⟨.literal text :: parts, congrArg _ shown, number, congrArg _ listed, ?_⟩
      exact List.forall_mem_cons.mpr ⟨⟨nofun, rfl⟩, plain⟩
    | comma => exact ih digits room
    | point => exact ih digits room

theorem exists_dropEndWhile_zeros (text : List Char) :
    ∃ zeros, text = dropEndWhile (· == '0') text ++ List.replicate zeros '0' := by
  refine ⟨(text.reverse.takeWhile (· == '0')).length, ?_⟩
  have zeros : text.reverse.takeWhile (· == '0') =
      List.replicate (text.reverse.takeWhile (· == '0')).length '0' :=
    List.eq_replicate_iff.mpr ⟨rfl, fun c member => by simpa using List.mem_takeWhile_imp member⟩
  rw [dropEndWhile, ← List.reverse_replicate, ← zeros, ← List.reverse_append,
    List.takeWhile_append_dropWhile, List.reverse_reverse]

/-- Zeros are dropped from the end down to a least length. -/
theorem exists_dropZeros {least : Nat} (enough : least ≤ digits.length) :
    ∃ zeros, digits = dropZeros least digits ++ List.replicate zeros '0' ∧
      least ≤ (dropZeros least digits).length ∧
      (least < (dropZeros least digits).length →
        (dropZeros least digits).getLast? ≠ some '0') := by
  obtain ⟨zeros, split⟩ := exists_dropEndWhile_zeros (digits.drop least)
  have start : (digits.take least).length = least := List.length_take_of_le enough
  refine ⟨zeros, ?_, ?_, fun longer => ?_⟩
  · rw [dropZeros, List.append_assoc, ← split, List.take_append_drop]
  · rw [dropZeros, List.length_append, start]
    exact Nat.le_add_right _ _
  · rw [dropZeros, List.length_append, start] at longer
    have kept : dropEndWhile (· == '0') (digits.drop least) ≠ [] :=
      List.ne_nil_of_length_pos (by omega)
    rw [dropZeros, List.getLast?_append_of_ne_nil _ kept, List.getLast?_eq_some_getLast kept]
    intro zero
    exact List.rdropWhile_last_not (· == '0') _ kept (beq_iff_eq.mpr (Option.some.inj zero))

/-! ## Sections -/

/-- A comma stands directly behind each digit of the whole part at which one is due, by the number
of digits that follow it, and nowhere else. -/
def CommasStand (grouping : Bool) (parts : List LayoutPart) : Prop :=
  ∀ before after, parts = before ++ after →
    (after.head? = some .comma ↔
      (∃ digit, before.getLast? = some (.whole digit)) ∧
        CommaDue grouping (after.countP LayoutPart.isWhole))

theorem CommasFrom.reverse (stand : CommasFrom grouping 0 parts) :
    CommasStand grouping parts.reverse := by
  intro before after split
  have mirrored : parts = after.reverse ++ before.reverse := by
    rw [← List.reverse_append, ← split, List.reverse_reverse]
  have cut := stand after.reverse before.reverse mirrored
  rwa [List.getLast?_reverse, List.head?_reverse, List.countP_reverse, Nat.zero_add] at cut

theorem CommasFrom.append (plain : ∀ part ∈ parts, part ≠ .comma ∧ part.isWhole = false)
    (stand : CommasFrom grouping printed ahead) : CommasFrom grouping printed (parts ++ ahead) := by
  induction parts with
  | nil => exact stand
  | cons part parts ih =>
    obtain ⟨⟨other, noDigit⟩, plain⟩ := List.forall_mem_cons.mp plain
    refine CommasFrom.cons other (fun digit => absurd digit (by simp [noDigit])) ?_
    simpa [noDigit] using ih plain

theorem LaysOut.forward {text taken : List Char}
    (laid : LaysOut grouping printed items text taken parts) :
    parts.reverse.flatMap LayoutPart.text = text.reverse ∧
      parts.reverse.filter LayoutPart.isNumber = taken.reverse.map .whole ∧
      parts.reverse.filterMap LayoutPart.item? = items.reverse.filter FormatItem.isShown := by
  have double : (List.reverse ∘ fun part : LayoutPart => part.text.reverse) = LayoutPart.text := by
    funext part
    exact List.reverse_reverse _
  refine ⟨?_, ?_, ?_⟩
  · rw [← laid.text, List.reverse_flatMap, double]
  · rw [List.filter_reverse, laid.number, List.map_reverse]
  · rw [List.filterMap_reverse, laid.items, List.filter_reverse]

/-- A section with a placeholder takes all digits of the whole part. -/
theorem exists_wholeParts (grouping : Bool) (items : List FormatItem) (digits : List Char)
    {placed : Bool} (placeholder : items.any FormatItem.isDigit = true ∨ placed = true) :
    ∃ parts, LaysOut grouping 0 items.reverse
      ((layoutWhole grouping 0 items.reverse digits).1 ++ groupedDigits grouping 0
        (if items.any FormatItem.isDigit || placed then
          (layoutWhole grouping 0 items.reverse digits).2
        else [])) digits parts := by
  obtain ⟨parts, taken, all, laid⟩ := exists_layoutWhole grouping 0 items.reverse digits
  rw [layoutWhole_left, List.any_reverse] at all ⊢
  rw [if_pos (by simpa using placeholder)]
  split_ifs at all ⊢
  · rw [List.append_nil] at all
    rw [← all, groupedDigits, List.append_nil]
    exact ⟨parts, all ▸ laid⟩
  · -- Without a placeholder before the point all digits are left over.
    obtain rfl : taken = [] := by simpa using all
    obtain ⟨more, shown⟩ := exists_digitParts grouping 0 digits
    have both := laid.append shown
    rw [List.append_nil] at both
    exact ⟨_, both⟩

/-- The parts of a section before the point and behind it. -/
theorem items_split (items : List FormatItem) :
    ∃ middle, items = wholeItems items ++ (middle ++ fractionItems items) ∧
      (middle = [] ∨ middle = [.point]) := by
  induction items with
  | nil => exact ⟨[], rfl, .inl rfl⟩
  | cons item items ih =>
    by_cases point : item = .point
    · subst point
      exact ⟨[.point], rfl, .inr rfl⟩
    · obtain ⟨middle, split, shape⟩ := ih
      refine ⟨middle, ?_, shape⟩
      simp only [wholeItems, fractionItems, List.takeWhile_cons, List.dropWhile_cons, bne_iff_ne,
        ne_eq, point, not_false_eq_true, if_true, List.cons_append] at split ⊢
      rw [← split]

/-- The number of placeholders behind the point. -/
def fractionPlaces (items : List FormatItem) : Nat :=
  ((fractionItems items).filter FormatItem.isDigit).length

/-- A value scaled by the percent signs of a section and by the commas behind its whole part. -/
def scaledValue (items : List FormatItem) (value : Binary64) : Binary64 :=
  scaleBy (items.count .percent) (thousands (wholeItems items)) value

theorem filter_isShown (items : List FormatItem) :
    items.filter FormatItem.isShown =
      (wholeItems items).filter FormatItem.isShown ++
        (fractionItems items).filter FormatItem.isShown := by
  obtain ⟨middle, split, rfl | rfl⟩ := items_split items
  all_goals
    conv_lhs => rw [split]
    rw [List.filter_append]
    rfl

theorem any_isDigit (placeholder : items.any FormatItem.isDigit = true) :
    (wholeItems items).any FormatItem.isDigit = true ∨ (fractionPlaces items != 0) = true := by
  obtain ⟨middle, split, shape⟩ := items_split items
  have none : middle.any FormatItem.isDigit = false := by
    obtain rfl | rfl := shape <;> rfl
  rw [split, List.any_append, List.any_append, none, Bool.false_or, Bool.or_eq_true] at placeholder
  refine placeholder.imp_right fun behind => ?_
  obtain ⟨item, member, digit⟩ := List.any_eq_true.mp behind
  rw [bne_iff_ne, fractionPlaces]
  exact (List.length_pos_of_mem (List.mem_filter.mpr ⟨member, digit⟩)).ne'

theorem leastFraction_le (items : List FormatItem) :
    leastFraction (fractionItems items) ≤ fractionPlaces items := by
  have shorter := (List.dropWhile_sublist
    (l := ((fractionItems items).filter FormatItem.isDigit).reverse) (· == .digit false)).length_le
  rwa [List.length_reverse] at shorter

theorem any_dropWhile_zeros (digits : List Char) :
    (digits.dropWhile (· == '0')).any (· != '0') = digits.any (· != '0') := by
  induction digits with
  | nil => rfl
  | cons digit rest ih =>
    by_cases zero : digit = '0'
    · subst zero
      exact ih
    · simp [zero]

/-- Zeros in front and at the end do not tell whether there is another digit. -/
theorem any_nonzero {whole kept : List Char} (least zeros : Nat) :
    (zeroPad least (whole.dropWhile (· == '0')) ++ kept).any (· != '0') =
      (whole ++ (kept ++ List.replicate zeros '0')).any (· != '0') := by
  have none (count : Nat) : (List.replicate count '0').any (· != '0') = false := by simp
  rw [zeroPad, List.any_append, List.any_append, List.any_append, List.any_append, none, none,
    any_dropWhile_zeros, Bool.false_or, Bool.or_false]

theorem signParts_spec (negative : Bool) :
    (signParts negative).flatMap LayoutPart.text = signText negative ∧
      (signParts negative).filter LayoutPart.isNumber = signParts negative ∧
      (signParts negative).filterMap LayoutPart.item? = [] ∧
      ∀ part ∈ signParts negative, part ≠ .comma ∧ part.isWhole = false := by
  cases negative <;> simp [signParts, signText, LayoutPart.text, LayoutPart.isNumber,
    LayoutPart.item?, LayoutPart.isWhole]

theorem pointParts_spec (digits : List Char) :
    (pointParts digits).flatMap LayoutPart.text = (if digits.isEmpty then [] else ['.']) ∧
      (pointParts digits).filter LayoutPart.isNumber = pointParts digits ∧
      (pointParts digits).filterMap LayoutPart.item? = [] ∧
      ∀ part ∈ pointParts digits, part ≠ .comma ∧ part.isWhole = false := by
  cases digits <;> simp [pointParts, LayoutPart.text, LayoutPart.isNumber, LayoutPart.item?,
    LayoutPart.isWhole]

/-- A section shows a number by the digits `whole` and `kept` of the rounded number. -/
theorem exists_parts {format : List Char} (read : formatItems false format = items)
    (value : Binary64) (negative : Bool) {whole fraction kept : List Char} {zeros : Nat}
    (placeholder : items.any FormatItem.isDigit = true)
    (written : fixed (scaledValue items value) (fractionPlaces items) = whole ++ pointed fraction)
    (placed : ArePlaced (fractionPlaces items) whole fraction)
    (drops : dropZeros (leastFraction (fractionItems items)) fraction = kept)
    (split : fraction = kept ++ List.replicate zeros '0') :
    ∃ parts,
      renderSection format value negative = parts.flatMap LayoutPart.text ∧
      parts.filter LayoutPart.isNumber =
        signParts (negative && (whole ++ fraction).any (· != '0')) ++
          ((zeroPad (leastWhole (wholeItems items)) (whole.dropWhile (· == '0'))).map .whole ++
            (pointParts kept ++ kept.map .fraction)) ∧
      parts.filterMap LayoutPart.item? = items.filter FormatItem.isShown ∧
      CommasStand (groups (wholeItems items)) parts := by
  obtain ⟨before, behind⟩ := split_pointed placed.noPoint fraction
  rw [scaledValue, fractionPlaces] at written
  simp only [renderSection, read, written, before, behind, drop_pointed, drops]
  have room : kept.length ≤ fractionPlaces items := by
    rw [← placed.length, split, List.length_append]
    exact Nat.le_add_right _ _
  rw [any_nonzero _ zeros, ← split]
  generalize (negative && (whole ++ fraction).any (· != '0')) = signed
  generalize zeroPad (leastWhole (wholeItems items)) (whole.dropWhile (· == '0')) = digits
  obtain ⟨wholeParts, laid⟩ := exists_wholeParts (groups (wholeItems items)) (wholeItems items)
    digits.reverse (any_isDigit placeholder)
  obtain ⟨wholeText, wholeNumber, wholeListed⟩ := laid.forward
  obtain ⟨fractionParts, text, number, listed, plain⟩ :=
    exists_layoutFraction (fractionItems items) kept room
  obtain ⟨signText, signNumber, signListed, signPlain⟩ := signParts_spec signed
  obtain ⟨pointText, pointNumber, pointListed, pointPlain⟩ := pointParts_spec kept
  refine ⟨signParts signed ++ (wholeParts.reverse ++ (pointParts kept ++ fractionParts)),
    ?_, ?_, ?_, ?_⟩
  · rw [List.flatMap_append, List.flatMap_append, List.flatMap_append, signText, wholeText,
      pointText, text, List.append_assoc, List.append_assoc]
    rfl
  · rw [List.filter_append, List.filter_append, List.filter_append, signNumber, wholeNumber,
      number, pointNumber, List.reverse_reverse]
  · rw [List.filterMap_append, List.filterMap_append, List.filterMap_append, signListed,
      wholeListed, pointListed, listed, List.nil_append, List.nil_append, List.reverse_reverse,
      filter_isShown items]
  · -- Read from right to left only the stretches of the whole part hold digits and commas.
    have backwards : CommasFrom (groups (wholeItems items)) 0
        (fractionParts.reverse ++ ((pointParts kept).reverse ++
          (wholeParts ++ ((signParts signed).reverse ++ [])))) := by
      refine .append (by simpa using plain) (.append (by simpa using pointPlain) ?_)
      exact laid.commas _ (.append (by simpa using signPlain) commasFrom_nil)
    simpa using backwards.reverse

/-! ## Values that are not negative -/

theorem scaleBy_not_less (percents commas : Nat) {value : Binary64}
    (notLess : value.less .zero = false) : (scaleBy percents commas value).less .zero = false := by
  obtain ⟨hundred, isHundred, -⟩ := Binary64.exists_integer (show 100 < 2 ^ 53 by decide)
  obtain ⟨thousand, isThousand, many⟩ := Binary64.exists_integer (show 1000 < 2 ^ 53 by decide)
  have nonzero := (thousand.mantissa_pos (by rw [many]; norm_num)).ne'
  have keeps {step : Binary64 → Binary64}
      (kept : ∀ value : Binary64, value.less .zero = false → (step value).less .zero = false)
      (count : Nat) {value : Binary64} (notLess : value.less .zero = false) :
      ((List.replicate count ()).foldl (fun value _ => step value) value).less .zero = false := by
    induction count generalizing value with
    | zero => exact notLess
    | succ count ih => exact ih (kept value notLess)
  refine keeps (fun value notLess => ?_) commas (keeps (fun value notLess => ?_) percents notLess)
  · rw [Binary64.ofNat, Binary64.ofRatio_of_nearest? false isThousand]
    exact Binary64.div_not_less notLess nonzero
  · rw [Binary64.ofNat, Binary64.ofRatio_of_nearest? false isHundred]
    exact Binary64.mul_not_less notLess hundred

/-- A section with a placeholder loses no digit of the rounded number and none of its own parts.
The digits before the point are filled up with zeros to the placeholders from the first `0` on,
zeros behind the point are dropped down to the placeholders up to the last `0`, literals and
percent signs stand in their order, and commas stand where the number of digits to the right of
them asks for one. -/
theorem renderSection_parts {format : List Char} {items : List FormatItem}
    (read : formatItems false format = items) (value : Binary64) (negative : Bool)
    (placeholder : items.any FormatItem.isDigit = true) (notLess : value.less .zero = false)
    (finite : (scaledValue items value).isFinite = true) :
    ∃ whole fraction kept zeros parts,
      (fixed (scaledValue items value) (fractionPlaces items) = whole ++ pointed fraction ∧
        ArePlaced (fractionPlaces items) whole fraction) ∧
      (fraction = kept ++ List.replicate zeros '0' ∧
        leastFraction (fractionItems items) ≤ kept.length ∧
        (leastFraction (fractionItems items) < kept.length → kept.getLast? ≠ some '0')) ∧
      renderSection format value negative = parts.flatMap LayoutPart.text ∧
      parts.filter LayoutPart.isNumber =
        signParts (negative && (whole ++ fraction).any (· != '0')) ++
          ((zeroPad (leastWhole (wholeItems items)) (whole.dropWhile (· == '0'))).map .whole ++
            (pointParts kept ++ kept.map .fraction)) ∧
      parts.filterMap LayoutPart.item? = items.filter FormatItem.isShown ∧
      CommasStand (groups (wholeItems items)) parts := by
  obtain ⟨whole, fraction, placed, written⟩ :=
    exists_fixed_of_not_less (fractionPlaces items) finite (scaleBy_not_less _ _ notLess)
  have enough : leastFraction (fractionItems items) ≤ fraction.length := by
    rw [placed.length]
    exact leastFraction_le items
  obtain ⟨zeros, split, drops⟩ := exists_dropZeros enough
  obtain ⟨parts, shown⟩ := exists_parts read value negative placeholder written placed rfl split
  exact ⟨whole, fraction, _, zeros, parts, ⟨written, placed⟩, ⟨split, drops⟩, shown⟩

theorem renderSection_parts_literal :
    ∃ parts,
      renderSection "#,#'-'#0.0#%".toList (.ofRatio false 2469 200) true =
        parts.flatMap LayoutPart.text ∧
      parts.filterMap LayoutPart.item? = [.literal ['-'], .percent] ∧ CommasStand true parts := by
  obtain ⟨_, _, _, _, parts, -, -, shown, -, listed, commas⟩ :=
    renderSection_parts (show formatItems false "#,#'-'#0.0#%".toList = _ from rfl)
      (.ofRatio false 2469 200) true
      (by decide +kernel) (by decide +kernel) (by decide +kernel)
  have items : (formatItems false "#,#'-'#0.0#%".toList).filter FormatItem.isShown =
      [.literal ['-'], .percent] := by decide +kernel
  have grouping : groups (wholeItems (formatItems false "#,#'-'#0.0#%".toList)) = true := by
    decide +kernel
  exact ⟨parts, shown, listed.trans items, grouping ▸ commas⟩

example : renderSection "#,#'-'#0.0#%".toList (.ofRatio false 2469 200) true =
    "-1,2-34.5%".toList := by
  decide +kernel

end CreatureNaming.Number
