import CreatureNaming.Json.Reader

/-! Strings of JSON documents.

The string that stands for a text is written without control characters, and each quote and
backslash in it belongs to an escape. So it is read up to its closing quote, and undoing the
escapes gives the text again.
-/

set_option autoImplicit false

namespace CreatureNaming.Json

variable {c : Char} {rest : List Char}

/-- The two digits of a control character's code. -/
theorem hexUnit?_hexDigit {code : Nat} (small : code < 32) :
    hexUnit? '0' '0' (hexDigit (code / 16)) (hexDigit (code % 16)) = some code := by
  have all : ∀ code : Fin 32,
      hexUnit? '0' '0' (hexDigit (code.val / 16)) (hexDigit (code.val % 16)) = some code.val := by
    decide
  exact all ⟨code, small⟩

/-- An escape, or a character that stands for itself. -/
theorem escapeChar_cases (c : Char) :
    (∃ letter, shortEscape? letter = some c ∧ letter ≠ 'u' ∧ escapeChar c = ['\\', letter]) ∨
      (c.toNat < 32 ∧ escapeChar c =
        ['\\', 'u', '0', '0', hexDigit (c.toNat / 16), hexDigit (c.toNat % 16)]) ∨
      (c ≠ '"' ∧ c ≠ '\\' ∧ ¬c.toNat < 32 ∧ escapeChar c = [c]) := by
  unfold escapeChar
  split
  iterate 7 exact .inl ⟨_, rfl, by decide, rfl⟩
  next quote backslash _ _ _ _ _ =>
    split
    · next control => exact .inr (.inl ⟨control, rfl⟩)
    · next visible => exact .inr (.inr ⟨quote, backslash, visible, rfl⟩)

theorem escapeChar_visible (quote : c ≠ '"') (backslash : c ≠ '\\') (visible : 32 ≤ c.toNat) :
    escapeChar c = [c] := by
  unfold escapeChar
  split
  · exact absurd rfl quote
  · exact absurd rfl backslash
  iterate 5 exact absurd visible (by decide)
  rw [if_neg (Nat.not_lt.mpr visible)]

theorem unescape_escapeChar (c : Char) (rest : List Char) :
    unescape (escapeChar c ++ rest) = (unescape rest).map (c :: ·) := by
  obtain ⟨letter, short, notUnit, written⟩ | ⟨control, written⟩ | ⟨-, notBackslash, -, written⟩ :=
    escapeChar_cases c
  · rw [written]
    simp [unescape, short, notUnit]
  · rw [written]
    have unit := hexUnit?_hexDigit control
    have high : ¬0xD800 ≤ c.toNat := by omega
    have low : ¬0xDC00 ≤ c.toNat := by omega
    simp [unescape, unit, high, low]
  · rw [written]
    simp [unescape, notBackslash]

theorem quoted?_escapeChar (c : Char) (rest : List Char) :
    quoted? (escapeChar c ++ rest) =
      (quoted? rest).map fun (found, rest) => (escapeChar c ++ found, rest) := by
  obtain ⟨letter, short, notUnit, written⟩ | ⟨control, written⟩ |
    ⟨notQuote, notBackslash, visible, written⟩ := escapeChar_cases c
  · rw [written]
    simp only [List.cons_append, List.nil_append]
    rw [quoted?, short]
    · cases quoted? rest <;> rfl
    · rintro _ _ _ _ _ rfl
      exact absurd rfl notUnit
  · rw [written]
    have unit := hexUnit?_hexDigit control
    simp only [List.cons_append, List.nil_append]
    rw [quoted?, unit]
    cases quoted? rest <;> rfl
  · rw [written]
    have printed : (c == '\\' || decide (c.toNat < 0x20)) = false := by
      simp [notBackslash, visible]
    simp only [List.cons_append, List.nil_append]
    rw [quoted?, printed]
    · cases quoted? rest <;> rfl
    · exact notQuote
    · intro _ _ _ _ _ same
      exact absurd same notBackslash
    · intro _ _ same
      exact absurd same notBackslash

/-- What stands between the quotes of a text's string. -/
theorem quoted?_ofText (text : String) (rest : List Char) :
    quoted? ((Quoted.ofText text).written.toList ++ '"' :: rest) =
      some ((Quoted.ofText text).written.toList, rest) := by
  rw [Quoted.ofText, String.toList_ofList]
  induction text.toList with
  | nil => rfl
  | cons c others ih =>
    rw [List.flatMap_cons, List.append_assoc, quoted?_escapeChar, ih]
    rfl

@[simp] theorem text?_ofText (text : String) : (Quoted.ofText text).text? = some text := by
  have undone : ∀ chars : List Char, unescape (chars.flatMap escapeChar) = some chars := by
    intro chars
    induction chars with
    | nil => rfl
    | cons c others ih =>
      rw [List.flatMap_cons, unescape_escapeChar, ih]
      rfl
  rw [Quoted.text?, Quoted.ofText, String.toList_ofList, undone, Option.map_some,
    String.ofList_toList]

/-- A text without quotes, backslashes and control characters is written as it is. -/
theorem written_ofText {text : String}
    (visible : ∀ c ∈ text.toList, c ≠ '"' ∧ c ≠ '\\' ∧ 32 ≤ c.toNat) :
    (Quoted.ofText text).written = text := by
  rw [Quoted.ofText]
  apply String.toList_injective
  rw [String.toList_ofList]
  generalize text.toList = chars at visible
  induction chars with
  | nil => rfl
  | cons c others ih =>
    rw [List.forall_mem_cons] at visible
    obtain ⟨⟨quote, backslash, printed⟩, after⟩ := visible
    rw [List.flatMap_cons, escapeChar_visible quote backslash printed, ih after]
    rfl

end CreatureNaming.Json
