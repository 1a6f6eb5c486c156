import CreatureNaming.Proofs.Function.Answers
import CreatureNaming.Proofs.Text.Runs

/-! Layouts of time.

Each item of a layout is read back from its directive, whatever follows it. A layout of letters
is written part by part, a run of a letter as the field of its length and every other character
that stands for itself as that character. So its directives always read, as just these items.
-/

set_option autoImplicit false

namespace CreatureNaming.Time

variable {text rest : List Char} {item : LayoutItem} {items : List LayoutItem} {c letter : Char}

/-! ## Directives -/

theorem directive?_field (shown : TimeField) (rest : List Char) :
    directive? (shown.directive ++ rest) = some (.field shown, rest) := by
  cases shown with
  | month padded | day padded | hour padded | hourOfHalf padded | minute padded | second padded =>
    cases padded <;> rfl
  | yearShort | year | monthShort | monthName | weekdayShort | weekdayName | half | millis | micros
    | nanos | offset => rfl

theorem directive_of_letterField? {field : TimeField} (found : letterField? letter = some field) :
    field.directive = [letter] := by
  unfold letterField? at found
  split at found <;> cases found <;> rfl

theorem directive_of_unpaddedField? {field : TimeField}
    (found : unpaddedField? letter = some field) : field.directive = ['-', letter] := by
  unfold unpaddedField? at found
  split at found <;> cases found <;> rfl

/-- What is read behind a percent sign is the directive of an item. -/
theorem directive_of_directive? (found : directive? text = some (item, rest)) :
    '%' :: text = item.directive ++ rest := by
  unfold directive? at found
  split at found
  case h_2 =>
    obtain ⟨field, read, same⟩ := Option.map_eq_some_iff.mp found
    cases same
    rw [LayoutItem.directive, directive_of_unpaddedField? read]
    rfl
  case h_7 =>
    obtain ⟨field, read, same⟩ := Option.map_eq_some_iff.mp found
    cases same
    rw [LayoutItem.directive, directive_of_letterField? read]
    rfl
  all_goals cases found <;> rfl

theorem layoutItems?_percent (found : directive? text = some (item, rest)) :
    layoutItems? ('%' :: text) = (layoutItems? rest).map (item :: ·) := by
  rw [layoutItems?]
  split <;> simp_all

theorem layoutItems?_char (other : c ≠ '%') (rest : List Char) :
    layoutItems? (c :: rest) = (layoutItems? rest).map (.literal c :: ·) :=
  layoutItems?.eq_3 c rest other

theorem layoutItems?_directive (item : LayoutItem) (rest : List Char) :
    layoutItems? (item.directive ++ rest) = (layoutItems? rest).map (item :: ·) := by
  cases item with
  | field shown => exact layoutItems?_percent (directive?_field shown rest)
  | literal c =>
    rw [LayoutItem.directive]
    split
    · next percent =>
      subst percent
      exact layoutItems?_percent rfl
    · next other => exact layoutItems?_char other rest

/-- A layout reads as some items just if it is made of their directives. -/
theorem layoutItems?_eq_some_iff :
    layoutItems? text = some items ↔ text = items.flatMap LayoutItem.directive := by
  constructor
  · intro read
    induction text using layoutItems?.induct generalizing items with
    | case1 =>
      rw [layoutItems?] at read
      cases read
      rfl
    | case2 rest unread =>
      rw [layoutItems?] at read
      split at read <;> simp_all
    | case3 text item rest found ih =>
      rw [layoutItems?_percent found] at read
      obtain ⟨more, readMore, rfl⟩ := Option.map_eq_some_iff.mp read
      rw [List.flatMap_cons, ← ih readMore, directive_of_directive? found]
    | case4 c rest other ih =>
      rw [layoutItems?_char other] at read
      obtain ⟨more, readMore, rfl⟩ := Option.map_eq_some_iff.mp read
      rw [List.flatMap_cons, ← ih readMore, LayoutItem.directive, if_neg other]
      rfl
  · rintro rfl
    induction items with
    | nil => rw [List.flatMap_nil, layoutItems?]
    | cons item items ih => rw [List.flatMap_cons, layoutItems?_directive, ih, Option.map_some]

/-! ## Layouts of letters -/

/-- The letters whose runs are fields. -/
def fieldLetters : List Char := ['y', 'M', 'd', 'H', 'h', 'm', 's', 't', 'f', 'F', 'z', 'K']

theorem runField?_isSome (letter : Char) (length : Nat) :
    (runField? letter length).isSome = true ↔ letter ∈ fieldLetters := by
  unfold runField?
  split <;> simp_all [fieldLetters]

def IsQuotation (c : Char) : Prop := c = '\'' ∨ c = '"'

instance (c : Char) : Decidable (IsQuotation c) := inferInstanceAs (Decidable (_ ∨ _))

/-- A part of a layout of letters. -/
inductive LetterPart where
  /-- A letter of a field, and how many more of it follow. -/
  | run (letter : Char) (more : Nat)
  | quoted (mark : Char) (chars : List Char)
  /-- Characters behind a quotation mark that no other one of its kind follows. -/
  | unclosed (mark : Char) (chars : List Char)
  | escaped (char : Char)
  /-- A backslash with nothing behind it. -/
  | backslash
  /-- A character without a meaning of its own. -/
  | plain (char : Char)
  deriving DecidableEq, Repr

namespace LetterPart

def written : LetterPart → List Char
  | run letter more => List.replicate (more + 1) letter
  | quoted mark chars => mark :: chars ++ [mark]
  | unclosed mark chars => mark :: chars
  | escaped char => ['\\', char]
  | backslash => ['\\']
  | plain char => [char]

/-- What a part stands for: a run for the field of its letter and length, all other characters
but quotation marks and backslashes for themselves. -/
def shown : LetterPart → List LayoutItem
  | run letter more => (runField? letter (more + 1)).toList.map .field
  | quoted _ chars => chars.map .literal
  | unclosed _ chars => chars.map .literal
  | escaped char => [.literal char]
  | backslash => []
  | plain char => [.literal char]

/-- A part as it can stand before a text. A run is as long as it can be. -/
def Precedes (later : List Char) : LetterPart → Prop
  | run letter _ => letter ∈ fieldLetters ∧ later.head? ≠ some letter
  | quoted mark chars => IsQuotation mark ∧ mark ∉ chars
  | unclosed mark chars => IsQuotation mark ∧ mark ∉ chars ∧ later = []
  | escaped _ => True
  | backslash => later = []
  | plain char => char ∉ fieldLetters ∧ ¬ IsQuotation char ∧ char ≠ '\\'

instance (later : List Char) : (part : LetterPart) → Decidable (part.Precedes later)
  | run _ _ => inferInstanceAs (Decidable (_ ∧ _))
  | quoted _ _ => inferInstanceAs (Decidable (_ ∧ _))
  | unclosed _ _ => inferInstanceAs (Decidable (_ ∧ _))
  | escaped _ => inferInstanceAs (Decidable True)
  | backslash => inferInstanceAs (Decidable (_ = _))
  | plain _ => inferInstanceAs (Decidable (_ ∧ _))

end LetterPart

/-- The parts of a text, from its start to its end. -/
inductive PartsOf : List LetterPart → List Char → Prop where
  | nil : PartsOf [] []
  | cons (part : LetterPart) {parts : List LetterPart} {later : List Char}
      (precedes : part.Precedes later) (rest : PartsOf parts later) :
      PartsOf (part :: parts) (part.written ++ later)

theorem ne_backslash_of_isQuotation (quotes : IsQuotation c) : c ≠ '\\' := by
  rintro rfl
  exact absurd quotes (by decide)

theorem not_isQuotation_of_mem (listed : c ∈ fieldLetters) : ¬ IsQuotation c := by
  rintro (rfl | rfl) <;> exact absurd listed (by decide)

theorem ne_backslash_of_mem (listed : c ∈ fieldLetters) : c ≠ '\\' := by
  rintro rfl
  exact absurd listed (by decide)

theorem directives_quotation (quotes : IsQuotation c) (rest : List Char) :
    directives (c :: rest) =
      (rest.takeWhile (· != c)).flatMap (fun char => (LayoutItem.literal char).directive) ++
        directives ((rest.dropWhile (· != c)).drop 1) := by
  have other := ne_backslash_of_isQuotation quotes
  rw [directives.eq_4 c rest (by simp [other]) (by simp [other]),
    if_pos (by simpa [IsQuotation] using quotes)]

theorem directives_letter (listed : letter ∈ fieldLetters) (rest : List Char) :
    ∃ field, runField? letter ((rest.takeWhile (· == letter)).length + 1) = some field ∧
      directives (letter :: rest) =
        (LayoutItem.field field).directive ++ directives (rest.dropWhile (· == letter)) := by
  have other := ne_backslash_of_mem listed
  obtain ⟨field, found⟩ := Option.isSome_iff_exists.mp ((runField?_isSome letter
    ((rest.takeWhile (· == letter)).length + 1)).mpr listed)
  refine ⟨field, found, ?_⟩
  rw [directives.eq_4 letter rest (by simp [other]) (by simp [other]),
    if_neg (by simpa [IsQuotation] using not_isQuotation_of_mem listed), found]

theorem directives_plain (unlisted : c ∉ fieldLetters) (unquoted : ¬ IsQuotation c)
    (other : c ≠ '\\') (rest : List Char) :
    directives (c :: rest) = (LayoutItem.literal c).directive ++ directives rest := by
  have found : runField? c ((rest.takeWhile (· == c)).length + 1) = none := by
    rw [← Option.not_isSome_iff_eq_none, runField?_isSome]
    exact unlisted
  rw [directives.eq_4 c rest (by simp [other]) (by simp [other]),
    if_neg (by simpa [IsQuotation] using unquoted), found]

/-- A quotation up to its end, which is the next mark of its kind or the end of the text. -/
theorem takeWhile_unquoted {chars : List Char} (inside : c ∉ chars) (later : List Char)
    (ends : ∀ next ∈ later.head?, next = c) :
    (chars ++ later).takeWhile (· != c) = chars ∧ (chars ++ later).dropWhile (· != c) = later := by
  have all : ∀ char ∈ chars, (char != c) = true := by
    intro char member
    rw [bne_iff_ne]
    rintro rfl
    exact inside member
  exact Text.run_append all fun next head => by simp [ends next head]

/-- A run up to its end. -/
theorem takeWhile_run {later : List Char} (more : Nat) (ends : later.head? ≠ some letter) :
    (List.replicate more letter ++ later).takeWhile (· == letter) = List.replicate more letter ∧
      (List.replicate more letter ++ later).dropWhile (· == letter) = later := by
  have all : ∀ char ∈ List.replicate more letter, (char == letter) = true := by
    intro char member
    exact beq_iff_eq.mpr (List.eq_of_mem_replicate member)
  refine Text.run_append all fun next head => beq_false_of_ne ?_
  rintro rfl
  exact ends head

/-- A part is written as the directives of what it stands for. -/
theorem directives_part {part : LetterPart} {later : List Char} (precedes : part.Precedes later) :
    directives (part.written ++ later) =
      part.shown.flatMap LayoutItem.directive ++ directives later := by
  cases part with
  | run letter more =>
    obtain ⟨listed, ends⟩ := precedes
    obtain ⟨taken, left⟩ := takeWhile_run more ends
    obtain ⟨field, found, written⟩ :=
      directives_letter listed (List.replicate more letter ++ later)
    rw [taken, List.length_replicate] at found
    rw [left] at written
    rw [LetterPart.written, List.replicate_succ, List.cons_append, written, LetterPart.shown, found]
    simp
  | quoted mark chars =>
    obtain ⟨quotes, inside⟩ := precedes
    obtain ⟨taken, left⟩ := takeWhile_unquoted inside (mark :: later) (by simp)
    rw [LetterPart.written, List.cons_append, List.cons_append, List.append_assoc,
      List.singleton_append, directives_quotation quotes, taken, left, LetterPart.shown,
      List.flatMap_map, List.drop_one, List.tail_cons]
  | unclosed mark chars =>
    obtain ⟨quotes, inside, rfl⟩ := precedes
    obtain ⟨taken, left⟩ := takeWhile_unquoted inside [] (by simp)
    rw [LetterPart.written, List.cons_append, directives_quotation quotes, taken, left,
      LetterPart.shown, List.flatMap_map, List.drop_nil]
  | escaped char =>
    rw [LetterPart.written, List.cons_append, List.singleton_append, directives.eq_2]
    simp [LetterPart.shown]
  | backslash =>
    obtain rfl : later = [] := precedes
    rw [LetterPart.written, List.append_nil, directives.eq_3, directives.eq_1]
    rfl
  | plain char =>
    obtain ⟨unlisted, unquoted, other⟩ := precedes
    rw [LetterPart.written, List.singleton_append, directives_plain unlisted unquoted other]
    simp [LetterPart.shown]

theorem directives_parts {parts : List LetterPart} (parted : PartsOf parts text) :
    directives text = (parts.flatMap LetterPart.shown).flatMap LayoutItem.directive := by
  induction parted with
  | nil => rw [directives.eq_1]; rfl
  | cons part precedes _ ih => rw [directives_part precedes, ih, List.flatMap_cons, List.flatMap_append]

/-- Behind a quotation mark there is a quotation, which ends or does not. -/
theorem exists_quotation (quotes : IsQuotation c) (rest : List Char) :
    ∃ part : LetterPart, ∃ later, part.Precedes later ∧ part.written ++ later = c :: rest := by
  obtain ⟨chars, left, rfl, all, stops⟩ := Text.exists_run (· != c) rest
  have inside : c ∉ chars := fun member => absurd (all c member) (by simp)
  cases left with
  | nil =>
    rw [List.append_nil]
    exact ⟨.unclosed c chars, [], ⟨quotes, inside, rfl⟩, List.append_nil _⟩
  | cons mark later =>
    obtain rfl : mark = c := by simpa using stops mark rfl
    exact ⟨.quoted mark chars, later, ⟨quotes, inside⟩, by simp [LetterPart.written]⟩

/-- A letter of a field begins a run. -/
theorem exists_run (listed : letter ∈ fieldLetters) (rest : List Char) :
    ∃ part : LetterPart, ∃ later, part.Precedes later ∧ part.written ++ later = letter :: rest := by
  obtain ⟨run, later, rfl, all, stops⟩ := Text.exists_run (· == letter) rest
  have alike : run = List.replicate run.length letter :=
    List.eq_replicate_of_mem fun c member => beq_iff_eq.mp (all c member)
  refine ⟨.run letter run.length, later, ⟨listed, fun head => ?_⟩, ?_⟩
  · exact absurd (stops letter head) (by simp)
  · rw [LetterPart.written, List.replicate_succ, ← alike, List.cons_append]

/-- Every text that is not empty begins with a part. -/
theorem exists_part (c : Char) (rest : List Char) :
    ∃ part : LetterPart, ∃ later, part.Precedes later ∧ part.written ++ later = c :: rest := by
  by_cases escapes : c = '\\'
  · subst escapes
    cases rest with
    | nil => exact ⟨.backslash, [], rfl, rfl⟩
    | cons char later => exact ⟨.escaped char, later, trivial, rfl⟩
  by_cases quotes : IsQuotation c
  · exact exists_quotation quotes rest
  by_cases listed : c ∈ fieldLetters
  · exact exists_run listed rest
  · exact ⟨.plain c, rest, ⟨listed, quotes, escapes⟩, rfl⟩

theorem LetterPart.length_written_pos (part : LetterPart) : 0 < part.written.length := by
  cases part <;> simp [written]

theorem exists_partsOf (text : List Char) : ∃ parts, PartsOf parts text := by
  match text with
  | [] => exact ⟨[], .nil⟩
  | c :: rest =>
    obtain ⟨part, later, precedes, written⟩ := exists_part c rest
    have shorter : later.length < (c :: rest).length := by
      rw [← written, List.length_append]
      have := part.length_written_pos
      omega
    obtain ⟨parts, parted⟩ := exists_partsOf later
    exact ⟨part :: parts, written ▸ .cons part precedes parted⟩
termination_by text.length
decreasing_by exact shorter

/-! ## The time in a pattern -/

/-- The layout that a call for the time asks for. -/
def askedLayout (arguments : List (Unit → Rendered)) : List Char :=
  (Text.trim (((given? arguments 0).filter fun text => !Text.allBlank text).getD
    Work.defaultTimeFormat)).toList

theorem answer_time (now : Moment) (arguments : List (Unit → Rendered)) :
    Work.answer arguments (Work.time now) =
      .ok (.ofList (layout now.instant now.offset
        ((layoutItems? (directives (askedLayout arguments))).getD []))) := by
  rw [Work.time, Work.answer_bind, Work.answer_filled?]
  rfl

/-- Every layout of letters has parts, and its directives read as what the parts stand for,
however it is taken apart. A call for the time shows just that. -/
theorem layoutItems?_directives :
    (∀ text, (∃ parts, PartsOf parts text) ∧
      ∀ parts, PartsOf parts text →
        layoutItems? (directives text) = some (parts.flatMap LetterPart.shown)) ∧
    ∀ (context : Context) (arguments : List (Unit → Rendered)) (parts : List LetterPart),
      PartsOf parts (askedLayout arguments) →
      (context.renderCall "time" arguments).text =
        .ofList (layout context.now.instant context.now.offset
          (parts.flatMap LetterPart.shown)) := by
  have read : ∀ text parts, PartsOf parts text →
      layoutItems? (directives text) = some (parts.flatMap LetterPart.shown) :=
    fun text parts parted => layoutItems?_eq_some_iff.mpr (directives_parts parted)
  have named : Function.ofName? "time" = some .time := by decide
  refine ⟨fun text => ⟨exists_partsOf text, read text⟩, fun context arguments parts parted => ?_⟩
  rw [context.renderCall_text named, Function.work, answer_time, read _ parts parted,
    Option.getD_some]

/-- A quoted letter stands behind a field whose directive could go on with it. -/
theorem layoutItems?_directives_quotedLetter :
    let context : Context :=
      { creature := { id := 1, species := "Rex" }, siblings := [], now := ⟨⟨0, 0⟩, 0⟩
        random := fun _ => "000000" }
    let arguments : List (Unit → Rendered) := [fun _ => ⟨"y'f'%\\", false⟩]
    let parts : List LetterPart := [.run 'y' 0, .quoted '\'' ['f'], .plain '%', .backslash]
    PartsOf parts (askedLayout arguments) ∧
      layoutItems? (directives (askedLayout arguments)) =
        some [.field .yearShort, .literal 'f', .literal '%'] ∧
      (context.renderCall "time" arguments).text = "70f%" := by
  intro context arguments parts
  have asked : askedLayout arguments = (parts.map LetterPart.written).flatten := by decide
  have parted : PartsOf parts (askedLayout arguments) := by
    rw [asked]
    exact .cons (.run 'y' 0) (by decide) <| .cons (.quoted '\'' ['f']) (by decide) <|
      .cons (.plain '%') (by decide) <| .cons .backslash (by decide) .nil
  obtain ⟨read, shown⟩ := layoutItems?_directives
  refine ⟨parted, (read _).2 parts parted, ?_⟩
  rw [shown context arguments parts parted]
  decide

end CreatureNaming.Time
