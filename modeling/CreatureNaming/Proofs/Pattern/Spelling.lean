import CreatureNaming.Proofs.Pattern.Pairing

/-! What the source says where the lexemes stand.

The lexemes of a pattern stand side by side and cover all of its text. A lexeme that is no escape
stands for its own text, and reading the escapes of a text can be done lexeme by lexeme. Pairing
changes none of this, because an open brace that it turns into text is still one open brace of
the source.
-/

set_option autoImplicit false

namespace CreatureNaming

namespace Text

@[simp] theorem byteLength_nil : byteLength [] = 0 := rfl

theorem byteLength_cons (c : Char) (rest : List Char) :
    byteLength (c :: rest) = c.utf8Size + byteLength rest :=
  rfl

theorem byteLength_pos {text : List Char} (nonempty : text ≠ []) : 0 < byteLength text := by
  cases text with
  | nil => exact absurd rfl nonempty
  | cons c rest => exact Nat.add_pos_left c.utf8Size_pos _

theorem byteLength_append (first second : List Char) :
    byteLength (first ++ second) = byteLength first + byteLength second := by
  induction first with
  | nil => simp [byteLength]
  | cons c rest ih =>
    simp only [byteLength, List.cons_append, List.foldr_cons] at ih ⊢
    omega

end Text

/-! ## Places of a source -/

namespace Span

variable {source text raw later : List Char} {start : Nat}

theorem dropBytes_byteLength (raw later : List Char) :
    dropBytes (Text.byteLength raw) (raw ++ later) = some later := by
  induction raw with
  | nil =>
    simp only [Text.byteLength, List.foldr_nil, List.nil_append]
    cases later <;> rfl
  | cons c rest ih =>
    obtain ⟨size, wide⟩ := Nat.exists_eq_succ_of_ne_zero (Nat.ne_of_gt c.utf8Size_pos)
    simp only [Text.byteLength, List.foldr_cons, List.cons_append] at ih ⊢
    rw [wide, Nat.succ_add, dropBytes, if_pos (by omega), wide]
    simpa using ih

theorem takeBytes_byteLength (raw later : List Char) :
    takeBytes (Text.byteLength raw) (raw ++ later) = some raw := by
  induction raw with
  | nil => rw [Text.byteLength, List.foldr_nil, takeBytes]
  | cons c rest ih =>
    obtain ⟨size, wide⟩ := Nat.exists_eq_succ_of_ne_zero (Nat.ne_of_gt c.utf8Size_pos)
    simp only [Text.byteLength, List.foldr_cons, List.cons_append] at ih ⊢
    rw [wide, Nat.succ_add, takeBytes, if_pos (by omega), wide]
    simp [ih]

theorem dropBytes_zero (source : List Char) : dropBytes 0 source = some source := by
  cases source <;> rfl

theorem dropBytes_add (count : Nat) (stands : dropBytes start source = some text) :
    dropBytes (start + count) source = dropBytes count text := by
  induction source generalizing start with
  | nil =>
    cases start with
    | zero =>
      cases stands
      rw [Nat.zero_add]
    | succ start => cases stands
  | cons c rest ih =>
    cases start with
    | zero =>
      rw [dropBytes_zero] at stands
      cases stands
      rw [Nat.zero_add]
    | succ start =>
      rw [dropBytes] at stands
      split at stands
      · next fits =>
        rw [Nat.succ_add, dropBytes, if_pos (by omega), ← ih stands]
        congr 1
        omega
      · cases stands

/-- Behind a text, the source goes on with what follows the text. -/
theorem dropBytes_behind (raw : List Char)
    (stands : dropBytes start source = some (raw ++ later)) :
    dropBytes (start + Text.byteLength raw) source = some later := by
  rw [dropBytes_add _ stands, dropBytes_byteLength]

theorem slice_of_dropBytes (raw : List Char)
    (stands : dropBytes start source = some (raw ++ later)) :
    slice ⟨start, start + Text.byteLength raw⟩ source = some raw := by
  rw [slice, stands, Option.bind_some, Nat.add_sub_cancel_left, takeBytes_byteLength]

theorem takeBytes_eq_some {bytes : Nat} (taken : takeBytes bytes text = some raw) :
    bytes = Text.byteLength raw ∧ ∃ later, text = raw ++ later := by
  fun_induction takeBytes bytes text generalizing raw with
  | case1 text =>
    cases taken
    exact ⟨rfl, text, rfl⟩
  | case2 => cases taken
  | case3 bytes c rest fits ih =>
    obtain ⟨others, takes, rfl⟩ := Option.map_eq_some_iff.mp taken
    obtain ⟨room, later, rfl⟩ := ih takes
    rw [Text.byteLength_cons]
    exact ⟨by omega, later, rfl⟩
  | case4 => cases taken

/-- What a range says is what the source goes on with at its start. -/
theorem dropBytes_of_slice {span : Span} (sliced : slice span source = some raw)
    (nonempty : raw ≠ []) :
    span.stop = span.start + Text.byteLength raw ∧
      ∃ later, dropBytes span.start source = some (raw ++ later) := by
  obtain ⟨text, stands, taken⟩ := Option.bind_eq_some_iff.mp sliced
  obtain ⟨room, later, rfl⟩ := takeBytes_eq_some taken
  have size := Text.byteLength_pos nonempty
  exact ⟨by omega, later, stands⟩

end Span

namespace Pattern

/-! ## Escapes -/

/-- A text with each escape replaced by the character that it stands for. -/
def unescape : List Char → List Char
  | [] => []
  | [c] => [c]
  | c :: second :: rest =>
      if c = '\\' ∧ isStructural second = true then second :: unescape rest
      else c :: unescape (second :: rest)

theorem unescape_escaped {c : Char} (structural : isStructural c = true) (rest : List Char) :
    unescape ('\\' :: c :: rest) = c :: unescape rest := by
  simp [unescape, structural]

theorem unescape_cons {c : Char} (plain : c ≠ '\\') (rest : List Char) :
    unescape (c :: rest) = c :: unescape rest := by
  cases rest <;> simp [unescape, plain]

/-- A backslash stays if what follows it cannot be escaped. -/
theorem unescape_backslash {rest : List Char} (alone : ∀ c ∈ rest.head?, isStructural c = false) :
    unescape ('\\' :: rest) = '\\' :: unescape rest := by
  cases rest with
  | nil => rfl
  | cons c rest => simp [unescape, alone c rfl]

theorem unescape_plain_append {run : List Char} (plain : ∀ c ∈ run, isStructural c = false)
    (rest : List Char) : unescape (run ++ rest) = run ++ unescape rest := by
  induction run with
  | nil => rfl
  | cons c run ih =>
    rw [List.forall_mem_cons] at plain
    have notBackslash : c ≠ '\\' := by
      rintro rfl
      exact absurd plain.1 (by decide)
    rw [List.cons_append, unescape_cons notBackslash, ih plain.2, List.cons_append]

theorem not_isBlank_of_isStructural {c : Char} (structural : isStructural c = true) :
    Text.isBlank c = false := by
  simp only [isStructural, Bool.or_eq_true, beq_iff_eq] at structural
  rcases structural with ((((rfl | rfl) | rfl) | rfl) | rfl) | rfl <;> decide

theorem not_isStructural_of_isBlank {c : Char} (blank : Text.isBlank c = true) :
    isStructural c = false := by
  cases structural : isStructural c with
  | false => rfl
  | true =>
    rw [not_isBlank_of_isStructural structural] at blank
    cases blank

theorem ne_nil_of_unescape {text : List Char} (h : text ≠ []) : unescape text ≠ [] := by
  fun_cases unescape text <;> simp_all

/-- No blank can be escaped, so what reads as blanks consists of blanks. -/
theorem all_isBlank_of_unescape {text : List Char}
    (blank : ∀ c ∈ unescape text, Text.isBlank c = true) : ∀ c ∈ text, Text.isBlank c = true := by
  fun_induction unescape text with
  | case1 => simp
  | case2 c => exact blank
  | case3 c second rest escaped ih =>
    rw [List.forall_mem_cons, not_isBlank_of_isStructural escaped.2] at blank
    cases blank.1
  | case4 c second rest escaped ih =>
    rw [List.forall_mem_cons] at blank
    rw [List.forall_mem_cons]
    exact ⟨blank.1, ih blank.2⟩

/-! ## Lexemes -/

/-- A text is that of a lexeme, and its escapes can be read without those of the text behind it,
however much of `later` that is. -/
structure Lexeme.Spells (lexeme : Lexeme) (raw later : List Char) : Prop where
  ne_nil : raw ≠ []
  literal : (∀ c, lexeme.kind ≠ .escaped c) → raw = lexeme.literal.toList
  unescape : ∀ more, more <+: later →
    unescape (raw ++ more) = lexeme.literal.toList ++ unescape more

/-- From a byte on, lexemes stand side by side and cover a text. -/
inductive Spelled : Nat → List Lexeme → List Char → Prop where
  | nil (start : Nat) : Spelled start [] []
  | cons {start : Nat} {lexeme : Lexeme} {later : List Char} {lexemes : List Lexeme}
      (raw : List Char) (range : lexeme.span = ⟨start, start + Text.byteLength raw⟩)
      (spells : lexeme.Spells raw later)
      (rest : Spelled (start + Text.byteLength raw) lexemes later) :
      Spelled start (lexeme :: lexemes) (raw ++ later)

theorem utf8Size_of_isStructural {c : Char} (structural : isStructural c = true) :
    c.utf8Size = 1 := by
  simp only [isStructural, Bool.or_eq_true, beq_iff_eq] at structural
  rcases structural with ((((rfl | rfl) | rfl) | rfl) | rfl) | rfl <;> decide

theorem byteLength_structural {c : Char} (structural : isStructural c = true) (rest : List Char) :
    Text.byteLength (c :: rest) = Text.byteLength rest + 1 := by
  rw [Text.byteLength_cons, utf8Size_of_isStructural structural, Nat.add_comm]

/-- A character that builds constructs stands for itself. -/
theorem ofStructural?_literal {c : Char} {kind : Lexeme.Kind} (span : Span)
    (named : Lexeme.Kind.ofStructural? c = some kind) :
    (Lexeme.mk kind span).literal.toList = [c] ∧ (∀ e, kind ≠ .escaped e) ∧
      c ≠ '\\' ∧ Text.byteLength [c] = 1 := by
  unfold Lexeme.Kind.ofStructural? at named
  split at named <;> cases named <;> exact ⟨by simp [Lexeme.literal], nofun, by decide, by decide⟩

theorem ofStructural?_spells {c : Char} {kind : Lexeme.Kind} (span : Span) (later : List Char)
    (named : Lexeme.Kind.ofStructural? c = some kind) :
    (Lexeme.mk kind span).Spells [c] later := by
  obtain ⟨literal, -, plain, -⟩ := ofStructural?_literal span named
  refine ⟨by simp, fun _ => literal.symm, fun more _ => ?_⟩
  rw [literal]
  exact unescape_cons plain more

theorem eq_backslash_of_ofStructural? {c : Char} (structural : ¬isStructural c = false)
    (unnamed : Lexeme.Kind.ofStructural? c = none) : c = '\\' := by
  rw [Bool.not_eq_false] at structural
  simp only [isStructural, Bool.or_eq_true, beq_iff_eq] at structural
  rcases structural with ((((rfl | rfl) | rfl) | rfl) | rfl) | rfl
  all_goals first | rfl | cases unnamed

theorem lexemesFrom_spelled (start : Nat) (text : List Char) :
    Spelled start (lexemesFrom start text) text := by
  fun_induction lexemesFrom start text with
  | case1 start => exact .nil start
  | case2 start first rest plain run stop ih =>
    have split : run ++ (first :: rest).dropWhile (fun c => !isStructural c) = first :: rest :=
      List.takeWhile_append_dropWhile
    have all : (run.all fun c => !isStructural c) = true := List.all_takeWhile
    -- A run holds no backslash, so it reads as it stands whatever follows.
    have plainRun : ∀ c ∈ run, isStructural c = false := by simpa using all
    have nonempty : run ≠ [] := by simp [run, plain]
    conv_rhs => rw [← split]
    exact .cons run rfl
      ⟨nonempty, by simp [Lexeme.literal], fun more _ => by
        simpa [Lexeme.literal] using unescape_plain_append plainRun more⟩ ih
  | case3 start first rest structural kind named ih =>
    have spells := ofStructural?_spells ⟨start, start + 1⟩ rest named
    obtain ⟨-, -, -, size⟩ := ofStructural?_literal ⟨start, start + 1⟩ named
    exact .cons [first] (by rw [size]) spells (by rwa [size])
  | case4 start first structural unnamed second rest escapes ih =>
    obtain rfl := eq_backslash_of_ofStructural? structural unnamed
    have size : Text.byteLength ['\\', second] = 2 := by
      simp [Text.byteLength, utf8Size_of_isStructural escapes]
      rfl
    refine .cons ['\\', second] (by rw [size]) ⟨by simp, ?_, ?_⟩ (by rwa [size])
    · intro unescaped
      exact absurd rfl (unescaped second)
    · intro more _
      simpa [Lexeme.literal] using unescape_escaped escapes more
  | case5 start first structural unnamed second rest alone ih =>
    obtain rfl := eq_backslash_of_ofStructural? structural unnamed
    refine .cons ['\\'] rfl
      ⟨by simp, fun _ => by simp [Lexeme.literal], fun more starts => ?_⟩ ih
    rw [show ['\\'] ++ more = '\\' :: more from rfl, unescape_backslash]
    · simp [Lexeme.literal]
    -- What follows begins as the source does, with a character that cannot be escaped.
    intro c head
    cases more with
    | nil => cases head
    | cons c more =>
      cases head
      obtain ⟨rfl, -⟩ := List.cons_prefix_cons.mp starts
      simpa using alone
  | case6 start first structural unnamed =>
    obtain rfl := eq_backslash_of_ofStructural? structural unnamed
    refine .cons ['\\'] rfl
      ⟨by simp, fun _ => by simp [Lexeme.literal], fun more starts => ?_⟩ (.nil _)
    rw [List.prefix_nil.mp starts]
    simp [Lexeme.literal, unescape]

/-- Turning open braces into text changes no text and no range. -/
theorem Spelled.demoted {start : Nat} {input paired : List Lexeme} {text : List Char}
    (spelled : Spelled start input text) (demotes : List.Forall₂ Lexeme.Demotes input paired) :
    Spelled start paired text := by
  induction spelled generalizing paired with
  | nil start =>
    cases demotes
    exact .nil start
  | cons raw range spells rest ih =>
    cases demotes with
    | cons first others =>
      rcases first with rfl | ⟨brace, rfl⟩
      · exact .cons raw range spells (ih others)
      · -- An open brace and an escaped one contribute the same text.
        refine .cons raw range ⟨spells.ne_nil, ?_, ?_⟩ (ih others)
        · intro unescaped
          exact absurd rfl (unescaped '{')
        · simpa [Lexeme.literal, Lexeme.asText, brace] using spells.unescape

/-! ## What constructs are spelled by -/

variable {start : Nat} {input rest : List Lexeme} {text : List Char} {found : Opening}
  {name : String} {span : Span}

theorem Spelled.character {kind : Lexeme.Kind} {c : Char}
    (named : Lexeme.Kind.ofStructural? c = some kind)
    (spelled : Spelled start (⟨kind, span⟩ :: rest) text) :
    ∃ later, text = c :: later ∧ span = ⟨start, start + 1⟩ ∧ Spelled (start + 1) rest later := by
  obtain ⟨literal, unescaped, -, size⟩ := ofStructural?_literal span named
  cases spelled with
  | cons raw range spells others =>
    obtain rfl := (spells.literal unescaped).trans literal
    rw [size] at range others
    exact ⟨_, rfl, range, others⟩

theorem Spelled.run (spelled : Spelled start (⟨.text name, span⟩ :: rest) text) :
    ∃ later, text = name.toList ++ later ∧
      span = ⟨start, start + Text.byteLength name.toList⟩ ∧
      Spelled (start + Text.byteLength name.toList) rest later := by
  cases spelled with
  | cons raw range spells others =>
    obtain rfl := spells.literal nofun
    exact ⟨_, rfl, range, others⟩

theorem Spelled.opening (spelled : Spelled start input text)
    (opens : opening? input = some (found, rest)) :
    ∃ nameText later, text = '{' :: '{' :: '#' :: (nameText ++ ':' :: later) ∧
      found.start = start ∧
      found.nameSpan = ⟨start + 3, start + 3 + Text.byteLength nameText⟩ ∧
      found.name.toList = Text.trimChars nameText ∧ isIdentifier found.name = true ∧
      Spelled (start + 3 + Text.byteLength nameText + 1) rest later := by
  obtain ⟨name, _, _, _, _, _, identifier, rfl, rfl⟩ := opening?_shape opens
  obtain ⟨_, rfl, rfl, second⟩ := spelled.character rfl (c := '{')
  obtain ⟨_, rfl, rfl, hash⟩ := second.character rfl (c := '{')
  obtain ⟨_, rfl, rfl, named⟩ := hash.character rfl (c := '#')
  obtain ⟨_, rfl, rfl, colon⟩ := named.run
  obtain ⟨later, rfl, rfl, body⟩ := colon.character rfl (c := ':')
  exact ⟨name.toList, later, rfl, rfl, rfl, by simp [Text.trim], identifier, body⟩

theorem Spelled.reference (spelled : Spelled start input text)
    (refers : reference? input = some (name, span, rest)) :
    ∃ later, text = '{' :: (name.toList ++ '}' :: later) ∧
      span = ⟨start, start + 1 + Text.byteLength name.toList + 1⟩ ∧ isIdentifier name = true ∧
      Spelled (start + 1 + Text.byteLength name.toList + 1) rest later := by
  obtain ⟨_, _, _, identifier, rfl, rfl⟩ := reference?_shape refers
  obtain ⟨_, rfl, rfl, named⟩ := spelled.character rfl (c := '{')
  obtain ⟨_, rfl, rfl, closed⟩ := named.run
  obtain ⟨later, rfl, rfl, behind⟩ := closed.character rfl (c := '}')
  exact ⟨later, rfl, rfl, identifier, behind⟩

theorem Spelled.closing (spelled : Spelled start input text)
    (closes : closing? input = some (span, rest)) :
    ∃ later, text = '}' :: '}' :: later ∧ span = ⟨start, start + 2⟩ ∧
      Spelled (start + 2) rest later := by
  obtain ⟨_, _, rfl, rfl⟩ := closing?_shape closes
  obtain ⟨_, rfl, rfl, second⟩ := spelled.character rfl (c := '}')
  obtain ⟨later, rfl, rfl, behind⟩ := second.character rfl (c := '}')
  exact ⟨later, rfl, rfl, behind⟩

theorem Spelled.pipe {first : Lexeme} (spelled : Spelled start (first :: rest) text)
    (separates : first.kind = .pipe) :
    ∃ later, text = '|' :: later ∧ Spelled (start + 1) rest later := by
  obtain ⟨kind, span⟩ := first
  obtain rfl := separates
  obtain ⟨later, rfl, -, behind⟩ := spelled.character rfl (c := '|')
  exact ⟨later, rfl, behind⟩

end Pattern
end CreatureNaming
