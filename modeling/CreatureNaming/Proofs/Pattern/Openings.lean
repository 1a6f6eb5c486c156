import CreatureNaming.Lint
import CreatureNaming.Proofs.Pattern.Written
import CreatureNaming.Proofs.Text.Escapes

/-! Where a text opens calls.

Openings are looked for in the raw text of literals, by counting the backslashes before them. Read
a character at a time, the search keeps only whether the next character is escaped; so it can be
cut where no opening is under way, and it agrees with the lexemes of the text.
-/

set_option autoImplicit false

namespace CreatureNaming.Pattern

open Text (escapesNext trailingBackslashes escapesNext_eq_odd)

/-- Two open braces and a hash. -/
def startsOpening : List Char → Bool
  | '{' :: '{' :: '#' :: _ => true
  | _ => false

variable {offset start : Nat} {escaped : Bool} {c : Char} {raw rest later : List Char}

/-! ## A character at a time -/

theorem startsOpening_eq_true (opens : startsOpening raw = true) :
    ∃ rest, raw = '{' :: '{' :: '#' :: rest := by
  unfold startsOpening at opens
  split at opens
  · exact ⟨_, rfl⟩
  · cases opens

theorem openingsFrom_step (other : startsOpening (c :: rest) = false) :
    openingsFrom offset escaped (c :: rest) =
      openingsFrom (offset + c.utf8Size) (!escaped && c == '\\') rest := by
  have next : (if c = '\\' then !escaped else false) = (!escaped && c == '\\') := by
    by_cases backslash : c = '\\'
    · simp [backslash]
    · simp [backslash]
  rw [← next]
  apply openingsFrom.eq_2
  rintro later rfl rfl
  cases other

/-- The search looks at one place after the other. -/
theorem openingsFrom_cons (offset : Nat) (escaped : Bool) (c : Char) (rest : List Char) :
    openingsFrom offset escaped (c :: rest) =
      (if startsOpening (c :: rest) && !escaped then [offset] else []) ++
        openingsFrom (offset + c.utf8Size) (!escaped && c == '\\') rest := by
  cases opens : startsOpening (c :: rest) with
  | true =>
    -- An opening is passed at once; no other one begins at its second brace or at its hash.
    obtain ⟨later, same⟩ := startsOpening_eq_true opens
    obtain ⟨rfl, rfl⟩ := List.cons.inj same
    have brace : ('{').utf8Size = 1 := by decide
    have hash : ('#').utf8Size = 1 := by decide
    rw [openingsFrom, openingsFrom_step (c := '{') rfl, openingsFrom_step (c := '#') rfl, brace,
      hash]
    cases escaped <;> rfl
  | false => exact openingsFrom_step opens

/-- A character that builds no construct begins no opening, and it is not a backslash. -/
theorem openingsFrom_plain (plain : isStructural c = false) :
    openingsFrom offset escaped (c :: rest) =
      openingsFrom (offset + c.utf8Size) false rest := by
  have notBackslash : c ≠ '\\' := by
    rintro rfl
    cases plain
  have unopened : startsOpening (c :: rest) = false := by
    by_contra opens
    rw [Bool.not_eq_false] at opens
    obtain ⟨later, same⟩ := startsOpening_eq_true opens
    obtain ⟨rfl, -⟩ := List.cons.inj same
    cases plain
  rw [openingsFrom_step unopened, beq_false_of_ne notBackslash, Bool.and_false]

theorem openingsFrom_run (plain : ∀ c ∈ raw, isStructural c = false) :
    openingsFrom offset false (raw ++ rest) =
      openingsFrom (offset + Text.byteLength raw) false rest := by
  induction raw generalizing offset with
  | nil => rfl
  | cons c raw ih =>
    rw [List.forall_mem_cons] at plain
    rw [List.cons_append, openingsFrom_plain plain.1, Text.byteLength_cons, ← Nat.add_assoc]
    exact ih plain.2

/-! ## Where openings stand -/

theorem mem_openingsFrom {place : Nat} :
    place ∈ openingsFrom offset escaped raw ↔
      ∃ before behind, raw = before ++ '{' :: '{' :: '#' :: behind ∧
        place = offset + Text.byteLength before ∧ escapesNext escaped before = false := by
  induction raw generalizing offset escaped with
  | nil => simp [openingsFrom]
  | cons c rest ih =>
    rw [openingsFrom_cons, List.mem_append, List.mem_ite_nil_right, List.mem_singleton,
      Bool.and_eq_true, Bool.not_eq_true']
    constructor
    · rintro (⟨⟨opens, unescaped⟩, rfl⟩ | behind)
      · obtain ⟨later, same⟩ := startsOpening_eq_true opens
        exact ⟨[], later, same, rfl, unescaped⟩
      · obtain ⟨before, later, rfl, rfl, unescaped⟩ := ih.mp behind
        refine ⟨c :: before, later, rfl, ?_, unescaped⟩
        rw [Text.byteLength_cons, Nat.add_assoc]
    · rintro ⟨before, behind, same, rfl, unescaped⟩
      -- The opening is at this place, or at one behind it.
      cases before with
      | nil =>
        left
        rw [same]
        exact ⟨⟨rfl, unescaped⟩, rfl⟩
      | cons first before =>
        right
        obtain ⟨rfl, rfl⟩ := List.cons.inj same
        apply ih.mpr
        refine ⟨before, behind, rfl, ?_, unescaped⟩
        rw [Text.byteLength_cons, Nat.add_assoc]

theorem openingsFrom_increasing (offset : Nat) (escaped : Bool) (raw : List Char) :
    (openingsFrom offset escaped raw).Pairwise (· < ·) := by
  induction raw generalizing offset escaped with
  | nil => exact .nil
  | cons c rest ih =>
    rw [openingsFrom_cons]
    apply List.pairwise_append.mpr
    refine ⟨?_, ih _ _, ?_⟩
    · split
      · exact List.pairwise_singleton _ _
      · exact .nil
    · intro first here second behind
      rw [List.mem_ite_nil_right, List.mem_singleton] at here
      obtain ⟨before, later, -, rfl, -⟩ := mem_openingsFrom.mp behind
      have room := c.utf8Size_pos
      omega

/-! ## Cutting a text -/

/-- The text begins with a character that an escape before it would take in, and it does not
complete an opening that began before it. -/
structure Breaks (later : List Char) : Prop where
  stops : Stops later
  noHash : ∀ rest, later ≠ '#' :: rest
  noBraceHash : ∀ rest, later ≠ '{' :: '#' :: rest

theorem Breaks.startsOpening_append (breaks : Breaks later) (c : Char) (raw : List Char) :
    startsOpening (c :: raw ++ later) = startsOpening (c :: raw) := by
  cases opens : startsOpening (c :: raw ++ later) with
  | true =>
    obtain ⟨rest, same⟩ := startsOpening_eq_true opens
    -- All three characters belong to the first text.
    match raw with
    | [] => exact absurd (List.cons.inj same).2 (breaks.noBraceHash rest)
    | [second] => exact absurd (List.cons.inj (List.cons.inj same).2).2 (breaks.noHash rest)
    | second :: third :: raw =>
      simp only [List.cons_append, List.cons.injEq] at same
      obtain ⟨rfl, rfl, rfl, -⟩ := same
      rfl
  | false =>
    by_contra different
    rw [Eq.comm, Bool.not_eq_false] at different
    obtain ⟨rest, same⟩ := startsOpening_eq_true different
    rw [same] at opens
    cases opens

theorem openingsFrom_append (breaks : Breaks later) :
    openingsFrom offset escaped (raw ++ later) =
      openingsFrom offset escaped raw ++
        openingsFrom (offset + Text.byteLength raw) (escapesNext escaped raw) later := by
  induction raw generalizing offset escaped with
  | nil => rfl
  | cons c raw ih =>
    rw [List.cons_append, openingsFrom_cons, openingsFrom_cons, ih, ← List.cons_append,
      breaks.startsOpening_append, List.append_assoc, escapesNext, Text.byteLength_cons,
      Nat.add_assoc]

/-- An escape at the end of a text shows in how the text reads with one more character. -/
theorem escapesNext_eq_false (structural : isStructural c = true)
    (apart : unescape (raw ++ [c]) = unescape raw ++ [c]) : escapesNext false raw = false := by
  fun_induction unescape raw with
  | case1 => rfl
  | case2 first =>
    apply beq_false_of_ne
    rintro rfl
    simp [unescape, structural] at apart
  | case3 first second rest both ih =>
    obtain ⟨rfl, escapes⟩ := both
    rw [List.cons_append, List.cons_append, unescape_escaped escapes, List.cons_append] at apart
    exact ih (List.cons.inj apart).2
  | case4 first second rest single ih =>
    rw [List.cons_append, List.cons_append, unescape, if_neg single, List.cons_append] at apart
    have behind := ih (List.cons.inj apart).2
    rw [escapesNext] at behind ⊢
    by_cases backslash : first = '\\'
    · -- A backslash that escapes nothing is followed by another kind of character.
      subst backslash
      have plain : isStructural second = false := by simpa using single
      have notBackslash : second ≠ '\\' := by
        rintro rfl
        cases plain
      rw [beq_false_of_ne notBackslash] at behind
      exact behind
    · rw [beq_false_of_ne backslash]
      exact behind

/-! ## Lexemes -/

/-- Three lexemes that begin a call: two open braces and a hash. -/
def beginsCall : List Lexeme → Bool
  | ⟨.braceOpen, _⟩ :: ⟨.braceOpen, _⟩ :: ⟨.hash, _⟩ :: _ => true
  | _ => false

/-- The byte offsets of the places where three lexemes begin a call. -/
def callPlaces : List Lexeme → List Nat
  | [] => []
  | first :: rest =>
      (if beginsCall (first :: rest) then [first.span.start] else []) ++ callPlaces rest

theorem beginsCall_eq_true {input : List Lexeme} (begins : beginsCall input = true) :
    ∃ (first second hash : Span) (rest : List Lexeme),
      input = ⟨.braceOpen, first⟩ :: ⟨.braceOpen, second⟩ :: ⟨.hash, hash⟩ :: rest := by
  unfold beginsCall at begins
  split at begins
  · exact ⟨_, _, _, _, rfl⟩
  · cases begins

theorem mem_callPlaces {input : List Lexeme} {place : Nat} :
    place ∈ callPlaces input ↔ ∃ first second hash : Span,
      [⟨.braceOpen, first⟩, ⟨.braceOpen, second⟩, ⟨.hash, hash⟩] <:+: input ∧
        first.start = place := by
  induction input with
  | nil => simp [callPlaces]
  | cons lexeme rest ih =>
    simp only [callPlaces, List.mem_append, List.mem_ite_nil_right, List.mem_singleton, ih,
      List.infix_cons_iff]
    constructor
    · rintro (⟨begins, rfl⟩ | ⟨first, second, hash, behind, rfl⟩)
      · obtain ⟨first, second, hash, later, same⟩ := beginsCall_eq_true begins
        rw [same]
        obtain ⟨rfl, -⟩ := List.cons.inj same
        exact ⟨first, second, hash, .inl ⟨later, rfl⟩, rfl⟩
      · exact ⟨first, second, hash, .inr behind, rfl⟩
    · rintro ⟨first, second, hash, ⟨later, same⟩ | behind, rfl⟩
      · left
        rw [← same]
        obtain ⟨rfl, -⟩ := List.cons.inj same
        exact ⟨rfl, rfl⟩
      · exact .inr ⟨first, second, hash, behind, rfl⟩

/-- A text begins with an opening if its lexemes do. -/
theorem beginsCall_lexemesFrom (start : Nat) (text : List Char) :
    beginsCall (lexemesFrom start text) = startsOpening text := by
  cases opens : startsOpening text with
  | true =>
    obtain ⟨later, rfl⟩ := startsOpening_eq_true opens
    rw [lexemesFrom_character (c := '{') rfl, lexemesFrom_character (c := '{') rfl,
      lexemesFrom_character (c := '#') rfl]
    rfl
  | false =>
    by_contra begins
    rw [Bool.not_eq_false] at begins
    obtain ⟨_, _, _, rest, same⟩ := beginsCall_eq_true begins
    have spelled := lexemesFrom_spelled start text
    rw [same] at spelled
    obtain ⟨_, rfl, -, spelled⟩ := spelled.character rfl (c := '{')
    obtain ⟨_, rfl, -, spelled⟩ := spelled.character rfl (c := '{')
    obtain ⟨_, rfl, -, -⟩ := spelled.character rfl (c := '#')
    cases opens

theorem openingsFrom_eq_callPlaces (start : Nat) (text : List Char) :
    openingsFrom start false text = callPlaces (lexemesFrom start text) := by
  fun_induction lexemesFrom start text with
  | case1 start => rfl
  | case2 start first rest plain run stop ih =>
    have split : run ++ (first :: rest).dropWhile (fun c => !isStructural c) = first :: rest :=
      List.takeWhile_append_dropWhile
    have all : (run.all fun c => !isStructural c) = true := List.all_takeWhile
    have plainRun : ∀ c ∈ run, isStructural c = false := by simpa using all
    conv_lhs => rw [← split]
    rw [openingsFrom_run plainRun, ih]
    rfl
  | case3 start first rest structural kind named ih =>
    obtain ⟨-, -, notBackslash, size⟩ := ofStructural?_literal ⟨start, start + 1⟩ named
    have wide : first.utf8Size = 1 := size
    rw [openingsFrom_cons, beq_false_of_ne notBackslash, wide, callPlaces,
      ← lexemesFrom_character named, beginsCall_lexemesFrom, Bool.not_false, Bool.and_true, ← ih]
    rfl
  | case4 start first structural unnamed second rest escapes ih =>
    obtain rfl := eq_backslash_of_ofStructural? structural unnamed
    have backslash : ('\\').utf8Size = 1 := by decide
    rw [openingsFrom_cons, openingsFrom_cons, utf8Size_of_isStructural escapes, backslash]
    simpa [startsOpening, callPlaces, beginsCall] using ih
  | case5 start first structural unnamed second rest alone ih =>
    obtain rfl := eq_backslash_of_ofStructural? structural unnamed
    have backslash : ('\\').utf8Size = 1 := by decide
    -- The backslash has nothing to escape here, as the next character builds no construct.
    have plain : isStructural second = false := by simpa using alone
    rw [openingsFrom_plain plain] at ih
    rw [openingsFrom_cons, openingsFrom_plain plain, backslash]
    exact ih
  | case6 start first structural unnamed =>
    obtain rfl := eq_backslash_of_ofStructural? structural unnamed
    rfl

end CreatureNaming.Pattern
