import CreatureNaming.Number.Format.Custom
import CreatureNaming.Proofs.Text.Escapes
import Mathlib.Data.List.Basic

/-! Sections of custom formats and the parts they are read as.

Two scanners go over a format. One splits it into sections, the other reads the parts of a section.
Each takes it piece by piece: single characters, a character with the backslash before it, and
quoted texts. They differ in one respect only: for the first a backslash protects a quotation mark
inside quotes, too. So they agree on a format unless a mark that is escaped inside its own quotes
is followed by something.
-/

set_option autoImplicit false

namespace CreatureNaming.Number

open Text (escapesNext trailingBackslashes escapesNext_eq_odd)

/-- Cut a text behind the quotation mark that closes it. The mark is passed over where it is
escaped, if backslashes protect characters inside quotes. -/
def throughMark (protects : Bool) (mark : Char) :
    (escaped : Bool) → List Char → List Char × List Char
  | _, [] => ([], [])
  | escaped, c :: rest =>
      if c = mark ∧ escaped = false then ([c], rest)
      else
        let (quoted, behind) := throughMark protects mark (protects && !escaped && c == '\\') rest
        (c :: quoted, behind)

variable {protects escaped pointSeen : Bool} {c mark : Char} {text body later rest : List Char}

theorem throughMark_close :
    throughMark protects mark false (mark :: rest) = ([mark], rest) := by
  rw [throughMark, if_pos ⟨rfl, rfl⟩]

theorem throughMark_goesOn (other : ¬ (c = mark ∧ escaped = false)) :
    throughMark protects mark escaped (c :: rest) =
      (c :: (throughMark protects mark (protects && !escaped && c == '\\') rest).1,
        (throughMark protects mark (protects && !escaped && c == '\\') rest).2) := by
  rw [throughMark, if_neg other]

theorem throughMark_append (protects : Bool) (mark : Char) (escaped : Bool) (text : List Char) :
    (throughMark protects mark escaped text).1 ++ (throughMark protects mark escaped text).2 =
      text := by
  induction text generalizing escaped with
  | nil => rfl
  | cons c rest ih =>
    by_cases closes : c = mark ∧ escaped = false
    · obtain ⟨rfl, rfl⟩ := closes
      rw [throughMark_close]
      rfl
    · rw [throughMark_goesOn closes, List.cons_append, ih]

theorem length_throughMark_le (text : List Char) :
    (throughMark protects mark escaped text).2.length ≤ text.length := by
  have whole := congrArg List.length (throughMark_append protects mark escaped text)
  rw [List.length_append] at whole
  omega

/-- The pieces of a format. -/
def pieces (protects : Bool) : List Char → List (List Char)
  | [] => []
  | '\\' :: next :: rest => ['\\', next] :: pieces protects rest
  | c :: rest =>
      if isQuote c then
        (c :: (throughMark protects c false rest).1) ::
          pieces protects (throughMark protects c false rest).2
      else [c] :: pieces protects rest
termination_by text => text.length
decreasing_by
  all_goals simp only [List.length_cons]
  all_goals grind [length_throughMark_le]

/-- A section for each group of pieces between semicolons that are pieces by themselves. -/
def sectionsOf (pieces : List (List Char)) : List (List Char) :=
  (pieces.splitOn [';']).map List.flatten

/-- Read the parts of one piece after the other. -/
def readPieces (pointSeen : Bool) : List (List Char) → List FormatItem
  | [] => []
  | piece :: rest => formatItems pointSeen piece ++ readPieces (pointSeen || piece == ['.']) rest

/-- A quoted text whose closing mark stands behind an odd number of backslashes. -/
def ClosesEscaped : List Char → Prop
  | [] => False
  | mark :: rest =>
      isQuote mark = true ∧ rest.getLast? = some mark ∧ trailingBackslashes rest.dropLast % 2 = 1

instance : DecidablePred ClosesEscaped
  | [] => inferInstanceAs (Decidable False)
  | mark :: rest =>
      inferInstanceAs (Decidable (isQuote mark = true ∧ rest.getLast? = some mark ∧
        trailingBackslashes rest.dropLast % 2 = 1))

/-- No mark that is escaped in its own quotes is followed by something. -/
def MarksUnescaped (format : List Char) : Prop :=
  ∀ piece ∈ (pieces false format).dropLast, ¬ ClosesEscaped piece

/-! ## Quoted texts -/

/-- Up to the first mark only the backslashes matter. -/
theorem throughMark_body (protects escaped : Bool) (text : List Char) (away : mark ∉ body) :
    throughMark protects mark (protects && escaped) (body ++ text) =
      (body ++ (throughMark protects mark (protects && escapesNext escaped body) text).1,
        (throughMark protects mark (protects && escapesNext escaped body) text).2) := by
  induction body generalizing escaped with
  | nil => rfl
  | cons c body ih =>
    obtain ⟨other, away⟩ := not_or.mp (List.mem_cons.not.mp away)
    have state : (protects && !(protects && escaped) && c == '\\') =
        (protects && (!escaped && c == '\\')) := by
      cases protects <;> simp
    rw [List.cons_append, throughMark_goesOn fun closes => other closes.1.symm, state, ih _ away,
      escapesNext, List.cons_append]

theorem throughMark_unclosed (away : mark ∉ text) :
    throughMark protects mark false text = (text, []) := by
  have whole := throughMark_body protects false [] away
  rwa [Bool.and_false, List.append_nil, throughMark, List.append_nil] at whole

theorem throughMark_closed (protects : Bool) (away : mark ∉ body)
    (plain : (protects && escapesNext false body) = false) :
    throughMark protects mark false (body ++ mark :: rest) = (body ++ [mark], rest) := by
  have whole := throughMark_body protects false (mark :: rest) away
  rwa [plain, Bool.and_false, throughMark_close] at whole

theorem throughMark_passes (away : mark ∉ body) (covered : escapesNext false body = true) :
    throughMark true mark false (body ++ mark :: rest) =
      (body ++ mark :: (throughMark true mark false rest).1,
        (throughMark true mark false rest).2) := by
  have whole := throughMark_body true false (mark :: rest) away
  rw [covered, Bool.and_false, Bool.and_true, throughMark_goesOn (by simp)] at whole
  exact whole

theorem throughMark_cons_ne_nil : (throughMark protects mark escaped (c :: rest)).1 ≠ [] := by
  rw [throughMark]
  split_ifs <;> exact List.cons_ne_nil _ _

theorem throughMark_escape (other : mark ≠ '\\') (next : Char) (rest : List Char) :
    throughMark true mark false ('\\' :: next :: rest) =
      ('\\' :: next :: (throughMark true mark false rest).1,
        (throughMark true mark false rest).2) := by
  rw [throughMark_goesOn fun closes => other closes.1.symm, throughMark_goesOn (by simp)]
  rfl

theorem throughMark_skip (other : c ≠ mark) (ends : c = '\\' → rest = []) :
    throughMark protects mark false (c :: rest) =
      (c :: (throughMark protects mark false rest).1,
        (throughMark protects mark false rest).2) := by
  rw [throughMark_goesOn fun closes => other closes.1]
  by_cases backslash : c = '\\'
  · rw [ends backslash]
    rfl
  · rw [beq_false_of_ne backslash, Bool.and_false]

/-- What was cut off is cut off again, whatever stands behind a closing mark. -/
theorem throughMark_again (ends : (throughMark protects mark escaped text).2 = [] → later = []) :
    throughMark protects mark escaped ((throughMark protects mark escaped text).1 ++ later) =
      ((throughMark protects mark escaped text).1, later) := by
  induction text generalizing escaped with
  | nil =>
    rw [ends rfl]
    rfl
  | cons c rest ih =>
    by_cases closes : c = mark ∧ escaped = false
    · obtain ⟨rfl, rfl⟩ := closes
      rw [throughMark_close]
      exact throughMark_close
    · rw [throughMark_goesOn closes] at ends ⊢
      rw [List.cons_append, throughMark_goesOn closes, ih ends]

/-! ## Pieces -/

theorem isQuote_backslash : isQuote '\\' = false := by decide

theorem ne_backslash (quotes : isQuote c = true) : c ≠ '\\' := by
  rintro rfl
  rw [isQuote_backslash] at quotes
  cases quotes

theorem pieces_escape (next : Char) :
    pieces protects ('\\' :: next :: rest) = ['\\', next] :: pieces protects rest := by
  rw [pieces]

theorem pieces_quoted (quotes : isQuote c = true) :
    pieces protects (c :: rest) =
      (c :: (throughMark protects c false rest).1) ::
        pieces protects (throughMark protects c false rest).2 := by
  rw [pieces, if_pos quotes]
  exact fun _ _ backslash => absurd backslash (ne_backslash quotes)

theorem pieces_single (plain : isQuote c = false) (ends : c = '\\' → rest = []) :
    pieces protects (c :: rest) = [c] :: pieces protects rest := by
  rw [pieces, if_neg (by simp [plain])]
  rintro next later rfl rfl
  exact absurd (ends rfl) (List.cons_ne_nil _ _)

/-- Formats as both scanners go over them: by the kind of their next piece. -/
@[elab_as_elim]
theorem format_induction {motive : List Char → Prop} (empty : motive [])
    (escape : ∀ next rest, motive rest → motive ('\\' :: next :: rest))
    (quoted : ∀ mark rest, isQuote mark = true →
      (∀ later, later.length ≤ rest.length → motive later) → motive (mark :: rest))
    (single : ∀ c rest, isQuote c = false → (c = '\\' → rest = []) → motive rest →
      motive (c :: rest))
    (format : List Char) : motive format := by
  induction length : format.length using Nat.strongRecOn generalizing format with
  | ind size ih =>
    subst length
    cases format with
    | nil => exact empty
    | cons c rest =>
      have shorter (later : List Char) (within : later.length ≤ rest.length) : motive later :=
        ih later.length (Nat.lt_succ_of_le within) later rfl
      by_cases quotes : isQuote c = true
      · exact quoted c rest quotes shorter
      · rw [Bool.not_eq_true] at quotes
        cases rest with
        | nil => exact single c [] quotes (fun _ => rfl) empty
        | cons next others =>
          by_cases backslash : c = '\\'
          · subst backslash
            exact escape next others (shorter others (Nat.le_succ _))
          · exact single c _ quotes (absurd · backslash) (shorter _ (Nat.le_refl _))

theorem flatten_pieces (protects : Bool) (format : List Char) :
    (pieces protects format).flatten = format := by
  induction format using format_induction with
  | empty => rw [pieces, List.flatten_nil]
  | escape next rest ih =>
    rw [pieces_escape, List.flatten_cons, ih]
    rfl
  | quoted mark rest quotes ih =>
    rw [pieces_quoted quotes, List.flatten_cons, ih _ (length_throughMark_le rest),
      List.cons_append, throughMark_append]
  | single c rest plain ends ih =>
    rw [pieces_single plain ends, List.flatten_cons, ih]
    rfl

/-- The first pieces of a format are the pieces of their own text. -/
theorem pieces_flatten_of_append {group others : List (List Char)} {format : List Char}
    (cut : pieces protects format = group ++ others) :
    pieces protects group.flatten = group := by
  induction format using format_induction generalizing group with
  | empty =>
    rw [pieces] at cut
    rw [(List.append_eq_nil_iff.mp cut.symm).1, List.flatten_nil, pieces]
  | escape next rest ih =>
    rw [pieces_escape] at cut
    cases group with
    | nil => rw [List.flatten_nil, pieces]
    | cons piece group =>
      obtain ⟨rfl, behind⟩ := List.cons.inj cut
      rw [List.flatten_cons, List.cons_append, List.cons_append, List.nil_append, pieces_escape,
        ih behind]
  | quoted mark rest quotes ih =>
    rw [pieces_quoted quotes] at cut
    cases group with
    | nil => rw [List.flatten_nil, pieces]
    | cons piece group =>
      obtain ⟨rfl, behind⟩ := List.cons.inj cut
      -- Only the last piece can be a quotation that nothing closes.
      have ends : (throughMark protects mark false rest).2 = [] → group.flatten = [] := by
        intro empty
        rw [empty, pieces] at behind
        rw [(List.append_eq_nil_iff.mp behind.symm).1, List.flatten_nil]
      rw [List.flatten_cons, List.cons_append, pieces_quoted quotes, throughMark_again ends,
        ih _ (length_throughMark_le rest) behind]
  | single c rest plain ends ih =>
    rw [pieces_single plain ends] at cut
    cases group with
    | nil => rw [List.flatten_nil, pieces]
    | cons piece group =>
      obtain ⟨rfl, behind⟩ := List.cons.inj cut
      have ends (backslash : c = '\\') : group.flatten = [] := by
        rw [ends backslash, pieces] at behind
        rw [(List.append_eq_nil_iff.mp behind.symm).1, List.flatten_nil]
      rw [List.flatten_cons, List.cons_append, List.nil_append, pieces_single plain ends, ih behind]

/-- What stands behind the first piece of a format has the pieces that are left. -/
theorem exists_behind {piece : List Char} {others : List (List Char)} {format : List Char}
    (cut : pieces protects format = piece :: others) : ∃ rest, pieces protects rest = others := by
  induction format using format_induction with
  | empty =>
    rw [pieces] at cut
    cases cut
  | escape next rest _ =>
    rw [pieces_escape] at cut
    exact ⟨rest, (List.cons.inj cut).2⟩
  | quoted mark rest quotes _ =>
    rw [pieces_quoted quotes] at cut
    exact ⟨_, (List.cons.inj cut).2⟩
  | single c rest plain ends _ =>
    rw [pieces_single plain ends] at cut
    exact ⟨rest, (List.cons.inj cut).2⟩

/-- Neighbouring pieces of a format are the pieces of their own text. -/
theorem pieces_flatten_of_isInfix {group : List (List Char)} {format : List Char}
    (within : group <:+: pieces protects format) : pieces protects group.flatten = group := by
  obtain ⟨before, after, cut⟩ := within
  rw [List.append_assoc] at cut
  induction before generalizing format with
  | nil => exact pieces_flatten_of_append cut.symm
  | cons piece before ih =>
    obtain ⟨rest, behind⟩ := exists_behind cut.symm
    exact ih behind.symm

/-! ## Splitting -/

theorem mem_splitOn {Entry : Type} [BEq Entry] [LawfulBEq Entry] {separator : Entry}
    {group list : List Entry} (listed : group ∈ list.splitOn separator) :
    separator ∉ group ∧ group <:+: list := by
  induction length : list.length using Nat.strongRecOn generalizing list with
  | ind size ih =>
    subst length
    by_cases separated : separator ∈ list
    · obtain ⟨before, behind, rfl, away⟩ := List.eq_append_cons_of_mem separated
      rw [List.splitOn_append_cons_self_of_not_mem away, List.mem_cons] at listed
      rcases listed with rfl | listed
      · exact ⟨away, (List.prefix_append _ _).isInfix⟩
      · have shorter : behind.length < (before ++ separator :: behind).length := by
          rw [List.length_append, List.length_cons]
          omega
        obtain ⟨without, within⟩ := ih _ shorter listed rfl
        have suffix := (List.suffix_cons separator behind).trans (List.suffix_append before _)
        exact ⟨without, within.trans suffix.isInfix⟩
    · rw [List.splitOn_eq_singleton separated, List.mem_singleton] at listed
      subst listed
      exact ⟨separated, List.infix_rfl⟩

theorem sectionsOf_semicolon (others : List (List Char)) :
    sectionsOf ([';'] :: others) = [] :: sectionsOf others := by
  rw [sectionsOf, List.splitOn_cons_eq_if_modifyHead, if_pos (beq_self_eq_true _)]
  rfl

theorem sectionsOf_cons {piece : List Char} (other : piece ≠ [';']) (others : List (List Char)) :
    sectionsOf (piece :: others) = (sectionsOf others).modifyHead (piece ++ ·) := by
  rw [sectionsOf, List.splitOn_cons_eq_if_modifyHead, if_neg (by simpa using other), sectionsOf]
  cases others.splitOn [';'] with
  | nil => rfl
  | cons first rest => rfl

theorem splitSections_escape (quote : Option Char) (next : Char) (rest : List Char) :
    splitSections quote ('\\' :: next :: rest) =
      prependFirst '\\' (prependFirst next (splitSections quote rest)) := by
  rw [splitSections]

theorem splitSections_within (ends : c = '\\' → rest = []) :
    splitSections (some mark) (c :: rest) =
      prependFirst c (splitSections (if c = mark then none else some mark) rest) := by
  rw [splitSections]
  rintro next later rfl rfl
  exact absurd (ends rfl) (List.cons_ne_nil _ _)

theorem splitSections_outside (ends : c = '\\' → rest = []) :
    splitSections none (c :: rest) =
      if c = ';' then [] :: splitSections none rest
      else prependFirst c (splitSections (if isQuote c then some c else none) rest) := by
  rw [splitSections]
  rintro next later rfl rfl
  exact absurd (ends rfl) (List.cons_ne_nil _ _)

theorem prependFirst_ne_nil (c : Char) (sections : List (List Char)) :
    prependFirst c sections ≠ [] := by
  cases sections <;> exact List.cons_ne_nil _ _

theorem splitSections_ne_nil (quote : Option Char) (text : List Char) :
    splitSections quote text ≠ [] := by
  fun_induction splitSections quote text with
  | case1 => exact List.cons_ne_nil _ _
  | case2 => exact prependFirst_ne_nil _ _
  | case3 => exact prependFirst_ne_nil _ _
  | case4 => exact List.cons_ne_nil _ _
  | case5 => exact prependFirst_ne_nil _ _

theorem prependFirst_eq {sections : List (List Char)} (nonempty : sections ≠ []) :
    prependFirst c sections = sections.modifyHead ([c] ++ ·) := by
  cases sections with
  | nil => exact absurd rfl nonempty
  | cons first rest => rfl

theorem prependFirst_modifyHead {sections : List (List Char)} (nonempty : sections ≠ [])
    (start : List Char) :
    prependFirst c (sections.modifyHead (start ++ ·)) =
      sections.modifyHead ((c :: start) ++ ·) := by
  cases sections with
  | nil => exact absurd rfl nonempty
  | cons first rest => rfl

/-- Inside quotes nothing is split off up to the mark that closes them. -/
theorem splitSections_quote (quotes : isQuote mark = true) (text : List Char) :
    splitSections (some mark) text =
      (splitSections none (throughMark true mark false text).2).modifyHead
        ((throughMark true mark false text).1 ++ ·) := by
  have step (c : Char) (rest : List Char) (ends : c = '\\' → rest = [])
      (ih : splitSections (some mark) rest =
        (splitSections none (throughMark true mark false rest).2).modifyHead
          ((throughMark true mark false rest).1 ++ ·)) :
      splitSections (some mark) (c :: rest) =
        (splitSections none (throughMark true mark false (c :: rest)).2).modifyHead
          ((throughMark true mark false (c :: rest)).1 ++ ·) := by
    rw [splitSections_within ends]
    by_cases closes : c = mark
    · subst closes
      rw [if_pos rfl, throughMark_close, prependFirst_eq (splitSections_ne_nil _ _)]
    · rw [if_neg closes, ih, throughMark_skip closes ends,
        prependFirst_modifyHead (splitSections_ne_nil _ _)]
  induction text using format_induction with
  | empty => rfl
  | escape next rest ih =>
    rw [splitSections_escape, ih, throughMark_escape (ne_backslash quotes),
      prependFirst_modifyHead (splitSections_ne_nil _ _),
      prependFirst_modifyHead (splitSections_ne_nil _ _)]
  | quoted c rest plain ih =>
    exact step c rest (absurd · (ne_backslash plain)) (ih rest (Nat.le_refl _))
  | single c rest _ ends ih => exact step c rest ends ih

/-- Splitting goes by pieces, quoted texts ending at a mark that is not escaped. -/
theorem splitSections_eq_sectionsOf (format : List Char) :
    splitSections none format = sectionsOf (pieces true format) := by
  induction format using format_induction with
  | empty =>
    rw [pieces]
    rfl
  | escape next rest ih =>
    rw [pieces_escape, sectionsOf_cons (by simp), ← ih, splitSections_escape,
      prependFirst_eq (splitSections_ne_nil none rest),
      prependFirst_modifyHead (splitSections_ne_nil none rest)]
  | quoted mark rest quotes ih =>
    have other : mark ≠ ';' := by
      rintro rfl
      exact absurd quotes (by decide)
    have ends : mark = '\\' → rest = [] := (absurd · (ne_backslash quotes))
    rw [pieces_quoted quotes, sectionsOf_cons (by simp [other]),
      ← ih _ (length_throughMark_le rest), splitSections_outside ends, if_neg other, if_pos quotes,
      splitSections_quote quotes, prependFirst_modifyHead (splitSections_ne_nil _ _)]
  | single c rest plain ends ih =>
    rw [pieces_single plain ends, splitSections_outside ends, plain]
    by_cases semicolon : c = ';'
    · subst semicolon
      rw [if_pos rfl, sectionsOf_semicolon, ih]
    · rw [if_neg semicolon, sectionsOf_cons (by simpa using semicolon), ← ih,
        prependFirst_eq (splitSections_ne_nil _ _)]
      rfl

theorem flatten_intercalate {Entry : Type} (separator : List Entry)
    (groups : List (List (List Entry))) :
    (List.intercalate [separator] groups).flatten =
      separator.intercalate (groups.map List.flatten) := by
  induction groups with
  | nil => rfl
  | cons group groups ih =>
    cases groups with
    | nil => simp
    | cons next groups => simp_all

theorem intercalate_sectionsOf (format : List Char) :
    [';'].intercalate (sectionsOf (pieces protects format)) = format := by
  rw [sectionsOf, ← flatten_intercalate, List.intercalate_splitOn, flatten_pieces]

/-! ## Reading -/

/-- A character that is read by itself leaves to the rest whether there was a point. -/
theorem formatItems_single (plain : isQuote c = false) (ends : c = '\\' → rest = []) :
    formatItems pointSeen (c :: rest) =
      formatItems pointSeen [c] ++ formatItems (pointSeen || [c] == ['.']) rest := by
  by_cases backslash : c = '\\'
  · rw [ends backslash, formatItems.eq_1, List.append_nil]
  · have sole : ([c] == ['.']) = decide (c = '.') := by
      rw [Bool.eq_iff_iff]
      simp
    rw [formatItems.eq_4 pointSeen c rest (fun _ _ same => absurd same backslash)
        (fun same => absurd same backslash), formatItems.eq_4 pointSeen c [] (by simp)
        (fun same => absurd same backslash), if_neg (ne_true_of_eq_false plain), sole]
    by_cases point : c = '.'
    · subst point
      cases pointSeen <;> simp [formatItems]
    · rw [decide_eq_false point, Bool.or_false, formatItems.eq_1,
        if_neg (ne_true_of_eq_false plain)]
      split_ifs <;> rfl

/-- Reading quotes up to the next mark of their kind. -/
theorem afterNext_eq_throughMark (mark : Char) (text : List Char) :
    afterNext mark text = (throughMark false mark false text).2 := by
  induction text with
  | nil => rfl
  | cons c rest ih =>
    by_cases closes : c = mark
    · subst closes
      simp [afterNext, throughMark_close]
    · rw [throughMark_goesOn fun both => closes both.1, Bool.false_and, Bool.false_and, ← ih]
      simp [afterNext, closes]

theorem takeWhile_throughMark (mark : Char) (text : List Char) :
    (throughMark false mark false text).1.takeWhile (· != mark) = text.takeWhile (· != mark) := by
  induction text with
  | nil => rfl
  | cons c rest ih =>
    by_cases closes : c = mark
    · subst closes
      simp [throughMark_close]
    · rw [throughMark_goesOn fun both => closes both.1, Bool.false_and, Bool.false_and]
      simp [closes, ih]

theorem formatItems_quoted (quotes : isQuote mark = true) (text : List Char) :
    formatItems pointSeen (mark :: text) =
      .literal (text.takeWhile (· != mark)) :: formatItems pointSeen (afterNext mark text) := by
  obtain rfl | rfl : mark = '\'' ∨ mark = '"' := by simpa [isQuote] using quotes
  all_goals simp [formatItems, isQuote]

/-- Reading goes by pieces, quoted texts ending at the next mark of their kind. -/
theorem formatItems_eq_readPieces (pointSeen : Bool) (format : List Char) :
    formatItems pointSeen format = readPieces pointSeen (pieces false format) := by
  induction format using format_induction generalizing pointSeen with
  | empty => rw [formatItems.eq_1, pieces, readPieces]
  | escape next rest ih =>
    have other : (['\\', next] == ['.']) = false := by simp
    rw [pieces_escape, readPieces, other, Bool.or_false, ← ih, formatItems.eq_2, formatItems.eq_2,
      formatItems.eq_1, List.singleton_append]
  | quoted mark rest quotes ih =>
    have other : (mark :: (throughMark false mark false rest).1 == ['.']) = false := by
      apply beq_false_of_ne
      intro same
      rw [(List.cons.inj same).1] at quotes
      cases quotes
    have again : afterNext mark (throughMark false mark false rest).1 = [] := by
      have cut : throughMark false mark false ((throughMark false mark false rest).1 ++ []) =
          ((throughMark false mark false rest).1, []) := throughMark_again fun _ => rfl
      rw [List.append_nil] at cut
      rw [afterNext_eq_throughMark, cut]
    rw [pieces_quoted quotes, readPieces, other, Bool.or_false,
      ← ih _ (length_throughMark_le rest), formatItems_quoted quotes, formatItems_quoted quotes,
      takeWhile_throughMark, again, afterNext_eq_throughMark, formatItems.eq_1,
      List.singleton_append]
  | single c rest plain ends ih =>
    rw [pieces_single plain ends, readPieces, ← ih, formatItems_single plain ends]

/-! ## Where both agree -/

theorem not_closesEscaped (plain : isQuote c = false) (rest : List Char) :
    ¬ ClosesEscaped (c :: rest) := fun closes => ne_true_of_eq_false plain closes.1

theorem closesEscaped_quoted (quotes : isQuote mark = true) (body : List Char) :
    ClosesEscaped (mark :: (body ++ [mark])) ↔ escapesNext false body = true := by
  rw [ClosesEscaped, List.getLast?_concat, List.dropLast_concat, escapesNext_eq_odd, beq_iff_eq]
  exact ⟨fun closes => closes.2.2, fun odd => ⟨quotes, rfl, odd⟩⟩

theorem forall_mem_dropLast_cons {Entry : Type} {P : Entry → Prop} (first : Entry)
    (rest : List Entry) :
    (∀ entry ∈ (first :: rest).dropLast, P entry) ↔
      (rest ≠ [] → P first) ∧ ∀ entry ∈ rest.dropLast, P entry := by
  cases rest with
  | nil => simp
  | cons next rest => simp

theorem pieces_eq_nil {format : List Char} : pieces protects format = [] ↔ format = [] := by
  constructor
  · intro none
    rw [← flatten_pieces protects format, none, List.flatten_nil]
  · rintro rfl
    rw [pieces]

/-- The scanners take the same pieces unless a mark that is escaped in its own quotes is followed
by something. -/
theorem pieces_eq_iff (format : List Char) :
    pieces true format = pieces false format ↔ MarksUnescaped format := by
  rw [MarksUnescaped]
  induction format using format_induction with
  | empty => simp [pieces]
  | escape next rest ih =>
    rw [pieces_escape, pieces_escape, forall_mem_dropLast_cons, List.cons_inj_right, ih]
    exact ⟨fun later => ⟨fun _ => not_closesEscaped isQuote_backslash _, later⟩, And.right⟩
  | quoted mark rest quotes ih =>
    rw [pieces_quoted quotes, pieces_quoted quotes, forall_mem_dropLast_cons]
    by_cases closed : mark ∈ rest
    · obtain ⟨body, behind, rfl, away⟩ := List.eq_append_cons_of_mem closed
      rw [throughMark_closed false away rfl, closesEscaped_quoted quotes]
      cases covered : escapesNext false body with
      | false =>
        have shorter : behind.length ≤ (body ++ mark :: behind).length := by
          rw [List.length_append, List.length_cons]
          omega
        rw [throughMark_closed true away (by rw [covered, Bool.and_false]), List.cons_inj_right,
          ih behind shorter]
        simp
      | true =>
        rw [throughMark_passes away covered, ne_eq, pieces_eq_nil]
        cases behind with
        | nil => simp [throughMark, pieces]
        | cons next behind =>
          -- The first scanner goes on behind the mark at which the second one stops.
          refine iff_of_false (fun same => ?_) fun free => free.1 (List.cons_ne_nil _ _) rfl
          have longer := List.append_cancel_left (List.cons.inj (List.cons.inj same).1).2
          exact throughMark_cons_ne_nil (List.cons.inj longer).2
    · rw [throughMark_unclosed closed, throughMark_unclosed closed, pieces, pieces]
      simp
  | single c rest plain ends ih =>
    rw [pieces_single plain ends, pieces_single plain ends, forall_mem_dropLast_cons,
      List.cons_inj_right, ih]
    exact ⟨fun later => ⟨fun _ => not_closesEscaped plain _, later⟩, And.right⟩

/-- The sections of a format, joined by semicolons, are the format. It is split at the semicolons
that are pieces of it if a backslash protects a mark inside quotes, and it is read as its pieces
if none does. Unless a mark that is escaped in its own quotes is followed by something, these are
the same pieces, and no section has a semicolon that is read by itself. -/
theorem splitSections_formatItems (format : List Char) :
    [';'].intercalate (splitSections none format) = format ∧
      (∀ protects, (pieces protects format).flatten = format) ∧
      splitSections none format = sectionsOf (pieces true format) ∧
      (∀ pointSeen, formatItems pointSeen format = readPieces pointSeen (pieces false format)) ∧
      (pieces true format = pieces false format ↔ MarksUnescaped format) ∧
      (MarksUnescaped format → splitSections none format = sectionsOf (pieces false format) ∧
        ∀ text ∈ splitSections none format, [';'] ∉ pieces false text) := by
  have split := splitSections_eq_sectionsOf format
  have join : [';'].intercalate (splitSections none format) = format := by
    rw [split, intercalate_sectionsOf]
  refine ⟨join, fun protects => flatten_pieces protects format, split,
    fun pointSeen => formatItems_eq_readPieces pointSeen format, pieces_eq_iff format,
    fun unescaped => ?_⟩
  rw [split, (pieces_eq_iff format).mpr unescaped]
  refine ⟨rfl, fun text listed => ?_⟩
  rw [sectionsOf, List.mem_map] at listed
  obtain ⟨group, listed, rfl⟩ := listed
  obtain ⟨without, within⟩ := mem_splitOn listed
  rwa [pieces_flatten_of_isInfix within]

theorem splitSections_formatItems_quoted :
    MarksUnescaped "0';'\\;;(0)".toList ∧
      splitSections none "0';'\\;;(0)".toList = sectionsOf (pieces false "0';'\\;;(0)".toList) ∧
      ∀ text ∈ splitSections none "0';'\\;;(0)".toList, [';'] ∉ pieces false text := by
  have unescaped : MarksUnescaped "0';'\\;;(0)".toList := by
    unfold MarksUnescaped
    decide +kernel
  exact ⟨unescaped, (splitSections_formatItems _).2.2.2.2.2 unescaped⟩

/-- A quoted backslash takes the mark behind it along, for the first scanner only: a format is not
split at a semicolon that is read by itself, or it is split at one that is read as quoted. -/
theorem splitSections_quoted_backslash :
    splitSections none "'\\';0".toList = ["'\\';0".toList] ∧
      sectionsOf (pieces false "'\\';0".toList) = ["'\\'".toList, ['0']] ∧
      [';'] ∈ pieces false "'\\';0".toList ∧
      customText (.ofNat 1) "'\\';0".toList = "\\;1".toList ∧
      splitSections none "'\\'';0".toList = ["'\\''".toList, ['0']] ∧
      sectionsOf (pieces false "'\\'';0".toList) = ["'\\'';0".toList] := by
  decide +kernel

end CreatureNaming.Number
