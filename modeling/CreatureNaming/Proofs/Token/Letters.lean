import CreatureNaming.Token.Value
import Mathlib.Data.List.Shortlex
import Mathlib.Data.Nat.Digits.Defs
import Mathlib.Data.Set.Function

/-! Generations in letters.

A to Z are the digits 1 to 26 of bijective base 26, where no digit is zero. The letters of a
generation are the numeral of its successor, so each text of letters stands for one generation.
Arithmetic on words of 32 bits finds the same letters and never subtracts from zero.
-/

set_option autoImplicit false

namespace CreatureNaming

/-- Some letters, all of them from A to Z. -/
def IsLetters (text : String) : Prop := text ≠ "" ∧ ∀ c ∈ text.toList, 'A' ≤ c ∧ c ≤ 'Z'

/-- A letter as a digit from 1 to 26. -/
def letterDigit (c : Char) : Nat := c.toNat - 'A'.toNat + 1

/-- The number that letters stand for in bijective base 26. -/
def lettersNumber (text : String) : Nat := Nat.ofDigits 26 (text.toList.reverse.map letterDigit)

/-- The letters of a word, the last letter first, by arithmetic on words. There are none if one is
subtracted from zero. -/
def wordLetters? (number : UInt32) : Option (List Char) :=
  let letter := Char.ofUInt8 (65 + (number % 26).toUInt8)
  if number < 26 then some [letter]
  else if 1 ≤ number / 26 then (wordLetters? (number / 26 - 1)).map (letter :: ·)
  else none
termination_by number.toNat
decreasing_by
  next large positive =>
  have below := UInt32.le_iff_toNat_le.mp (UInt32.not_lt.mp large)
  rw [UInt32.toNat_sub_of_le _ _ positive, UInt32.toNat_div]
  simp only [UInt32.reduceToNat] at below ⊢
  omega

def wordLettersText? (number : UInt32) : Option String :=
  (wordLetters? number).map fun letters => .ofList letters.reverse

variable {c : Char} {letters : List Char} {digit number first second : Nat}

/-! ## One letter -/

theorem isLetter_iff : 'A' ≤ c ∧ c ≤ 'Z' ↔ 65 ≤ c.toNat ∧ c.toNat ≤ 90 := Iff.rfl

theorem toNat_letter (small : digit < 26) :
    (Char.ofNat ('A'.toNat + digit)).toNat = 65 + digit := by
  have letters : ∀ digit < 26, (Char.ofNat ('A'.toNat + digit)).toNat = 65 + digit := by decide
  exact letters digit small

theorem letterDigit_letter (small : digit < 26) :
    letterDigit (Char.ofNat ('A'.toNat + digit)) = digit + 1 := by
  have code : 'A'.toNat = 65 := rfl
  rw [letterDigit, toNat_letter small, code]
  omega

theorem letter_of_letterDigit (capital : 'A' ≤ c ∧ c ≤ 'Z') (digit : letterDigit c = number + 1) :
    number < 26 ∧ Char.ofNat ('A'.toNat + number) = c := by
  have code : 'A'.toNat = 65 := rfl
  have range := isLetter_iff.mp capital
  rw [letterDigit, code] at digit
  have same : 65 + number = c.toNat := by omega
  rw [code, same, Char.ofNat_toNat]
  exact ⟨by omega, rfl⟩

/-! ## The numeral of a generation -/

theorem lettersReversed_of_lt (small : number < 26) :
    lettersReversed number = [Char.ofNat ('A'.toNat + number)] := by
  rw [lettersReversed, if_pos small, Nat.mod_eq_of_lt small]

theorem lettersReversed_of_le (large : 26 ≤ number) :
    lettersReversed number =
      Char.ofNat ('A'.toNat + number % 26) :: lettersReversed (number / 26 - 1) := by
  rw [lettersReversed, if_neg (Nat.not_lt.mpr large)]

theorem lettersReversed_ne_nil (number : Nat) : lettersReversed number ≠ [] := by
  by_cases small : number < 26
  · rw [lettersReversed_of_lt small]
    exact List.cons_ne_nil _ _
  · rw [lettersReversed_of_le (Nat.not_lt.mp small)]
    exact List.cons_ne_nil _ _

/-- Generations are counted by the number of letters: one letter up to 25, one more with each
division. -/
theorem letters_induction {motive : Nat → Prop}
    (single : ∀ number < 26, motive number)
    (longer : ∀ number, 26 ≤ number → motive (number / 26 - 1) → motive number)
    (number : Nat) : motive number := by
  induction number using Nat.strongRecOn with
  | ind number ih =>
    by_cases small : number < 26
    · exact single number small
    · exact longer number (Nat.not_lt.mp small) (ih _ (by omega))

theorem mem_lettersReversed (number : Nat) :
    ∀ c ∈ lettersReversed number, 'A' ≤ c ∧ c ≤ 'Z' := by
  have letter (digit : Nat) (small : digit < 26) :
      'A' ≤ Char.ofNat ('A'.toNat + digit) ∧ Char.ofNat ('A'.toNat + digit) ≤ 'Z' := by
    rw [isLetter_iff, toNat_letter small]
    omega
  induction number using letters_induction with
  | single number small =>
    rw [lettersReversed_of_lt small, List.forall_mem_singleton]
    exact letter number small
  | longer number large ih =>
    rw [lettersReversed_of_le large, List.forall_mem_cons]
    exact ⟨letter _ (Nat.mod_lt _ (by decide)), ih⟩

/-- Dividing and taking one away steps from one digit to the next. -/
theorem ofDigits_lettersReversed (number : Nat) :
    Nat.ofDigits 26 ((lettersReversed number).map letterDigit) = number + 1 := by
  induction number using letters_induction with
  | single number small =>
    rw [lettersReversed_of_lt small, List.map_singleton, Nat.ofDigits_singleton,
      letterDigit_letter small]
  | longer number large ih =>
    rw [lettersReversed_of_le large, List.map_cons, Nat.ofDigits_cons, ih,
      letterDigit_letter (Nat.mod_lt _ (by decide))]
    omega

/-- Every digit is positive. -/
theorem eq_nil_of_ofDigits (zero : Nat.ofDigits 26 (letters.map letterDigit) = 0) :
    letters = [] := by
  cases letters with
  | nil => rfl
  | cons c rest =>
    rw [List.map_cons, Nat.ofDigits_cons, letterDigit] at zero
    omega

/-- There is no other numeral of the same number. -/
theorem lettersReversed_of_ofDigits (capitals : ∀ c ∈ letters, 'A' ≤ c ∧ c ≤ 'Z')
    (value : Nat.ofDigits 26 (letters.map letterDigit) = number + 1) :
    lettersReversed number = letters := by
  induction letters generalizing number with
  | nil => simp at value
  | cons c rest ih =>
    rw [List.forall_mem_cons] at capitals
    rw [List.map_cons, Nat.ofDigits_cons] at value
    obtain ⟨digit, isDigit⟩ : ∃ digit, letterDigit c = digit + 1 := ⟨_, rfl⟩
    obtain ⟨small, rfl⟩ := letter_of_letterDigit capitals.1 isDigit
    cases higher : Nat.ofDigits 26 (rest.map letterDigit) with
    | zero =>
      have same : number = digit := by omega
      rw [eq_nil_of_ofDigits higher, same, lettersReversed_of_lt small]
    | succ before =>
      have remainder : number % 26 = digit := by omega
      have quotient : number / 26 - 1 = before := by omega
      rw [lettersReversed_of_le (by omega), remainder, quotient, ih capitals.2 higher]

/-! ## The order of generations -/

theorem lex_append {before after : List Char} (later others : List Char)
    (long : before.length = after.length) (earlier : List.Lex (· < ·) before after) :
    List.Lex (· < ·) (before ++ later) (after ++ others) := by
  induction earlier with
  | nil => simp at long
  | rel less => exact .rel less
  | cons _ ih => exact .cons (ih (Nat.succ.inj long))

/-- What is behind a shorter or earlier text does not matter, if it is one letter in both. -/
theorem shortlex_concat {before after : List Char} (last next : Char)
    (earlier : List.Shortlex (· < ·) before after) :
    List.Shortlex (· < ·) (before ++ [last]) (after ++ [next]) := by
  rw [List.shortlex_def] at earlier ⊢
  rw [List.length_append, List.length_append, List.length_singleton, List.length_singleton]
  rcases earlier with shorter | ⟨long, earlier⟩
  · exact .inl (Nat.add_lt_add_right shorter 1)
  · exact .inr ⟨congrArg (· + 1) long, lex_append _ _ long earlier⟩

theorem letter_lt {digit next : Nat} (less : digit < next) (small : next < 26) :
    Char.ofNat ('A'.toNat + digit) < Char.ofNat ('A'.toNat + next) := by
  have codes := Nat.add_lt_add_left less 65
  rw [← toNat_letter small, ← toNat_letter (less.trans small)] at codes
  exact codes

/-- A later generation has more letters, or as many and later ones. -/
theorem shortlex_lettersReversed (less : first < second) :
    List.Shortlex (· < ·) (lettersReversed first).reverse (lettersReversed second).reverse := by
  induction second using letters_induction generalizing first with
  | single second small =>
    rw [lettersReversed_of_lt small, lettersReversed_of_lt (less.trans small)]
    exact .of_lex rfl (.rel (letter_lt less small))
  | longer second large ih =>
    rw [lettersReversed_of_le large, List.reverse_cons]
    by_cases small : first < 26
    · rw [lettersReversed_of_lt small]
      have more := List.length_pos_iff.mpr (lettersReversed_ne_nil (second / 26 - 1))
      apply List.Shortlex.of_length_lt
      simpa using more
    · rw [lettersReversed_of_le (Nat.not_lt.mp small), List.reverse_cons]
      -- The letters before the last one decide, unless both have the same.
      rcases (Nat.div_le_div_right less.le : first / 26 ≤ second / 26).lt_or_eq with before | same
      · exact shortlex_concat _ _ (ih (by omega))
      · rw [same]
        exact .of_lex (by simp) (List.Lex.append_left _ (.rel (letter_lt (by omega) (by omega))) _)

/-! ## Arithmetic on words -/

theorem wordLetter_eq (number : UInt32) :
    Char.ofUInt8 (65 + (number % 26).toUInt8) = Char.ofNat ('A'.toNat + number.toNat % 26) := by
  have small : number.toNat % 26 < 26 := Nat.mod_lt _ (by decide)
  rw [← Char.toNat_inj, toNat_letter small]
  change (65 + (number % 26).toUInt8).toUInt32.toNat = 65 + number.toNat % 26
  rw [UInt8.toNat_toUInt32, UInt8.toNat_add, UInt32.toNat_toUInt8, UInt32.toNat_mod]
  simp only [UInt8.reduceToNat, UInt32.reduceToNat]
  omega

/-- A word that is not small has a quotient to take one away from. -/
theorem wordLetters?_eq (number : UInt32) :
    wordLetters? number = some (lettersReversed number.toNat) := by
  fun_induction wordLetters? number with
  | case1 number letter small =>
    have small : number.toNat < 26 := UInt32.lt_iff_toNat_lt.mp small
    rw [lettersReversed_of_lt small, ← Nat.mod_eq_of_lt small, ← wordLetter_eq]
  | case2 number letter large positive ih =>
    have large : 26 ≤ number.toNat := UInt32.le_iff_toNat_le.mp (UInt32.not_lt.mp large)
    rw [ih, lettersReversed_of_le large, ← wordLetter_eq, UInt32.toNat_sub_of_le _ _ positive,
      UInt32.toNat_div]
    rfl
  | case3 number large zero =>
    have large : 26 ≤ number.toNat := UInt32.le_iff_toNat_le.mp (UInt32.not_lt.mp large)
    have positive : 1 ≤ number / 26 := by
      rw [UInt32.le_iff_toNat_le, UInt32.toNat_div]
      simp only [UInt32.reduceToNat]
      omega
    exact absurd positive zero

/-! ## Texts of letters -/

theorem isLetters_lettersText (number : Nat) : IsLetters (lettersText number) := by
  constructor
  · rw [lettersText, ne_eq, String.ofList_eq_empty_iff, List.reverse_eq_nil_iff]
    exact lettersReversed_ne_nil number
  · intro c listed
    rw [lettersText, String.toList_ofList, List.mem_reverse] at listed
    exact mem_lettersReversed number c listed

theorem lettersNumber_lettersText (number : Nat) :
    lettersNumber (lettersText number) = number + 1 := by
  rw [lettersNumber, lettersText, String.toList_ofList, List.reverse_reverse,
    ofDigits_lettersReversed]

theorem exists_lettersText {text : String} (letters : IsLetters text) :
    ∃ number, lettersText number = text := by
  obtain ⟨nonempty, capitals⟩ := letters
  have capitals : ∀ c ∈ text.toList.reverse, 'A' ≤ c ∧ c ≤ 'Z' := by
    simpa only [List.mem_reverse] using capitals
  cases value : lettersNumber text with
  | zero =>
    have empty := eq_nil_of_ofDigits value
    rw [List.reverse_eq_nil_iff, String.toList_eq_nil_iff] at empty
    exact absurd empty nonempty
  | succ number =>
    refine ⟨number, ?_⟩
    rw [lettersText, lettersReversed_of_ofDigits capitals value, List.reverse_reverse,
      String.ofList_toList]

theorem lettersText_later (less : first < second) :
    (lettersText first).length < (lettersText second).length ∨
      (lettersText first).length = (lettersText second).length ∧
        lettersText first < lettersText second := by
  rw [lettersText, lettersText, String.length_ofList, String.length_ofList]
  refine (List.shortlex_def.mp (shortlex_lettersReversed less)).imp_right ?_
  rintro ⟨long, earlier⟩
  refine ⟨long, ?_⟩
  change (String.ofList _).toList < (String.ofList _).toList
  rw [String.toList_ofList, String.toList_ofList]
  exact earlier

/-- Generations and texts of letters stand for each other: the letters are the generation's
successor in bijective base 26, later generations come later, and words of 32 bits suffice. -/
theorem lettersText_bijective :
    Set.BijOn lettersText Set.univ {text | IsLetters text} ∧
      (∀ number, lettersNumber (lettersText number) = number + 1) ∧
      (∀ first second, first < second ↔
        (lettersText first).length < (lettersText second).length ∨
          (lettersText first).length = (lettersText second).length ∧
            lettersText first < lettersText second) ∧
      ∀ generation : UInt32,
        wordLettersText? generation = some (lettersText generation.toNat) := by
  refine ⟨⟨?_, ?_, ?_⟩, lettersNumber_lettersText, ?_, ?_⟩
  · intro number _
    exact isLetters_lettersText number
  · intro first _ second _ same
    have numbers := congrArg lettersNumber same
    rw [lettersNumber_lettersText, lettersNumber_lettersText] at numbers
    exact Nat.succ.inj numbers
  · intro text letters
    obtain ⟨number, same⟩ := exists_lettersText letters
    exact ⟨number, Set.mem_univ number, same⟩
  · intro first second
    refine ⟨lettersText_later, fun later => ?_⟩
    rcases Nat.lt_trichotomy first second with less | rfl | more
    · exact less
    · rcases later with shorter | ⟨-, earlier⟩
      · exact absurd shorter (Nat.lt_irrefl _)
      · exact absurd earlier (String.lt_irrefl _)
    · rcases later, lettersText_later more with
        ⟨shorter | ⟨long, earlier⟩, longer | ⟨same, behind⟩⟩
      · exact absurd longer (Nat.lt_asymm shorter)
      · exact absurd same (Nat.ne_of_gt shorter)
      · exact absurd long (Nat.ne_of_gt longer)
      · exact absurd behind (String.lt_asymm earlier)
  · intro generation
    rw [wordLettersText?, wordLetters?_eq]
    rfl

end CreatureNaming
