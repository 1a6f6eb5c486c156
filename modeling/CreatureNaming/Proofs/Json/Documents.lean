import CreatureNaming.Proofs.Json.Numerals
import CreatureNaming.Proofs.Json.Strings

/-! Reading back a document that was written with a line for each item and member.

The text of a document begins with a character that no other kind of document begins with, and
it ends where it does whatever follows, except that a number must not go on. Reading is paid for
by the characters read: a document of a given length needs twice as many steps at most.
-/

set_option autoImplicit false

namespace CreatureNaming.Json

/-! ## Written documents and their text -/

mutual

/-- All numbers and strings in a document have the form in which they are written. -/
def IsWritten : Json → Prop
  | .null => True
  | .bool _ => True
  | .number numeral => numeral.IsWritten
  | .string quoted => ∃ text, quoted = .ofText text
  | .array items => areWritten items
  | .object members => membersWritten members

def areWritten : List Json → Prop
  | [] => True
  | item :: rest => item.IsWritten ∧ areWritten rest

def membersWritten : List (Quoted × Json) → Prop
  | [] => True
  | (key, value) :: rest => (∃ text, key = .ofText text) ∧ value.IsWritten ∧ membersWritten rest

end

def lineChars (depth : Nat) : List Char := '\n' :: List.replicate (2 * depth) ' '

def keyChars (key : Quoted) : List Char := '"' :: (key.written.toList ++ ['"', ':', ' '])

mutual

/-- The characters of a document at some depth. -/
def prettyChars (depth : Nat) : Json → List Char
  | .null => ['n', 'u', 'l', 'l']
  | .bool true => ['t', 'r', 'u', 'e']
  | .bool false => ['f', 'a', 'l', 's', 'e']
  | .number numeral => numeral.chars
  | .string quoted => '"' :: (quoted.written.toList ++ ['"'])
  | .array [] => ['[', ']']
  | .array (item :: rest) =>
      '[' :: (itemsChars (depth + 1) [] (item :: rest) ++ (lineChars depth ++ [']']))
  | .object [] => ['\x7b', '\x7d']
  | .object (member :: rest) =>
      '\x7b' :: (membersChars (depth + 1) [] (member :: rest) ++ (lineChars depth ++ ['\x7d']))

def itemsChars (depth : Nat) (separator : List Char) : List Json → List Char
  | [] => []
  | item :: rest =>
      separator ++ (lineChars depth ++ (prettyChars depth item ++ itemsChars depth [','] rest))

def membersChars (depth : Nat) (separator : List Char) : List (Quoted × Json) → List Char
  | [] => []
  | (key, value) :: rest =>
      separator ++ (lineChars depth ++ (keyChars key ++
        (prettyChars depth value ++ membersChars depth [','] rest)))

end

theorem toList_pushn (text : String) (c : Char) (count : Nat) :
    (text.pushn c count).toList = text.toList ++ List.replicate count c := by
  rw [String.pushn_eq_repeat_push]
  induction count with
  | zero => simp [Nat.repeat]
  | succ count ih => rw [Nat.repeat, String.toList_push, ih, List.append_assoc, List.replicate_succ']

theorem toList_indent (depth : Nat) : (indent depth).toList = lineChars depth := by
  simp [indent, lineChars, toList_pushn]

theorem toList_print (quoted : Quoted) :
    quoted.print.toList = '"' :: (quoted.written.toList ++ ['"']) := by
  simp [Quoted.print]

mutual

theorem toList_prettyOnto : ∀ (document : Json) (depth : Nat) (out : String),
    (prettyOnto depth out document).toList = out.toList ++ prettyChars depth document
  | .null, depth, out => by simp [prettyOnto, prettyChars]
  | .bool true, depth, out => by simp [prettyOnto, prettyChars]
  | .bool false, depth, out => by simp [prettyOnto, prettyChars]
  | .number numeral, depth, out => by simp [prettyOnto, prettyChars, Numeral.text]
  | .string quoted, depth, out => by simp [prettyOnto, prettyChars, toList_print]
  | .array [], depth, out => by simp [prettyOnto, prettyChars]
  | .array (item :: rest), depth, out => by
    simp [prettyOnto, prettyChars, toList_prettyItemsOnto, toList_indent]
  | .object [], depth, out => by simp [prettyOnto, prettyChars]
  | .object (member :: rest), depth, out => by
    simp [prettyOnto, prettyChars, toList_prettyMembersOnto, toList_indent]

theorem toList_prettyItemsOnto : ∀ (items : List Json) (depth : Nat) (out separator : String),
    (prettyItemsOnto depth out separator items).toList =
      out.toList ++ itemsChars depth separator.toList items
  | [], depth, out, separator => by simp [prettyItemsOnto, itemsChars]
  | item :: rest, depth, out, separator => by
    rw [prettyItemsOnto, toList_prettyItemsOnto rest, toList_prettyOnto item]
    simp [itemsChars, toList_indent]

theorem toList_prettyMembersOnto : ∀ (members : List (Quoted × Json)) (depth : Nat)
    (out separator : String),
    (prettyMembersOnto depth out separator members).toList =
      out.toList ++ membersChars depth separator.toList members
  | [], depth, out, separator => by simp [prettyMembersOnto, membersChars]
  | (key, value) :: rest, depth, out, separator => by
    rw [prettyMembersOnto, toList_prettyMembersOnto rest, toList_prettyOnto value]
    simp [membersChars, keyChars, toList_indent, toList_print]

end

theorem toList_pretty (document : Json) : document.pretty.toList = prettyChars 0 document := by
  rw [pretty, toList_prettyOnto]
  rfl

/-! ## Reading -/

variable {fuel depth : Nat} {input rest blanks : List Char}

theorem isBlank_of_mem_lineChars {c : Char} (member : c ∈ lineChars depth) : isBlank c = true := by
  rcases List.mem_cons.mp member with rfl | space
  · rfl
  · rw [List.eq_of_mem_replicate space]
    rfl

theorem skipBlanks_append (blank : ∀ c ∈ blanks, isBlank c = true) (first : Char)
    (visible : isBlank first = false) (rest : List Char) :
    skipBlanks (blanks ++ first :: rest) = first :: rest := by
  rw [skipBlanks, List.dropWhile_append_of_pos blank]
  simp [visible]

theorem skipBlanks_visible (first : Char) (visible : isBlank first = false) (rest : List Char) :
    skipBlanks (first :: rest) = first :: rest := by
  simp [skipBlanks, visible]

theorem value?_string (starts : skipBlanks input = '"' :: rest) :
    value? (fuel + 1) input =
      (quoted? rest).map fun (found, rest) => (.string ⟨.ofList found⟩, rest) := by
  rw [value?, starts]
  rfl

theorem value?_array {inside : List Char} (starts : skipBlanks input = '[' :: rest)
    (skipped : skipBlanks rest = inside) (filled : ∀ later, inside ≠ ']' :: later) :
    value? (fuel + 1) input =
      (items? fuel inside).map fun (items, rest) => (.array items, rest) := by
  simp only [value?, starts, skipped]

theorem value?_object {inside : List Char} (starts : skipBlanks input = '\x7b' :: rest)
    (skipped : skipBlanks rest = inside) (filled : ∀ later, inside ≠ '\x7d' :: later) :
    value? (fuel + 1) input =
      (members? fuel inside).map fun (members, rest) => (.object members, rest) := by
  simp only [value?, starts, skipped]

theorem value?_number {first : Char} (starts : skipBlanks input = first :: rest)
    (begins : (first == '-' || first.isDigit) = true) :
    value? (fuel + 1) input =
      (numeral? (first :: rest)).map fun (numeral, rest) => (.number numeral, rest) := by
  rw [value?, starts]
  split
  · next same => cases same
  · next same =>
    cases same
    cases begins
  · next same =>
    cases same
    cases begins
  · next same =>
    cases same
    cases begins
  · next same =>
    cases same
    rw [if_pos begins]

theorem visible_of_begins {first : Char} (begins : (first == '-' || first.isDigit) = true) :
    isBlank first = false ∧ first ≠ ']' := by
  constructor
  · cases blank : isBlank first with
    | false => rfl
    | true =>
      simp only [isBlank, Bool.or_eq_true, beq_iff_eq] at blank
      rcases blank with ((rfl | rfl) | rfl) | rfl <;> cases begins
  · rintro rfl
    cases begins

/-- No document begins with a blank, or with a closing bracket. -/
theorem prettyChars_head {document : Json} (written : document.IsWritten) (depth : Nat) :
    ∃ first rest, prettyChars depth document = first :: rest ∧ isBlank first = false ∧
      first ≠ ']' := by
  cases document with
  | null => exact ⟨'n', _, rfl, by decide, by decide⟩
  | bool value => cases value <;> exact ⟨_, _, rfl, by decide, by decide⟩
  | number numeral =>
    obtain ⟨first, rest, chars, begins⟩ := Numeral.IsWritten.head written
    exact ⟨first, rest, chars, visible_of_begins begins⟩
  | string quoted => exact ⟨'"', _, rfl, by decide, by decide⟩
  | array items => cases items <;> exact ⟨'[', _, rfl, by decide, by decide⟩
  | object members => cases members <;> exact ⟨'\x7b', _, rfl, by decide, by decide⟩

theorem skipBlanks_pretty {document : Json} (written : document.IsWritten)
    (blank : ∀ c ∈ blanks, isBlank c = true) (depth : Nat) (rest : List Char) :
    skipBlanks (blanks ++ (prettyChars depth document ++ rest)) =
        prettyChars depth document ++ rest ∧
      ∀ later, prettyChars depth document ++ rest ≠ ']' :: later := by
  obtain ⟨first, chars, head, visible, filled⟩ := prettyChars_head written depth
  rw [head, List.cons_append]
  refine ⟨skipBlanks_append blank first visible _, ?_⟩
  intro later same
  exact filled (List.cons.inj same).1

theorem ends_lineChars (depth : Nat) (rest : List Char) : EndsNumber (lineChars depth ++ rest) := by
  rintro c ⟨⟩
  decide

theorem ends_itemsChars (items : List Json) (depth : Nat) (ends : EndsNumber rest) :
    EndsNumber (itemsChars depth [','] items ++ rest) := by
  cases items with
  | nil => exact ends
  | cons item others =>
    rintro c ⟨⟩
    decide

theorem ends_membersChars (members : List (Quoted × Json)) (depth : Nat) (ends : EndsNumber rest) :
    EndsNumber (membersChars depth [','] members ++ rest) := by
  cases members with
  | nil => exact ends
  | cons member others =>
    rintro c ⟨⟩
    decide

-- Each value and each list takes a step of fuel, and each of them takes up a character at least.
mutual

theorem value?_pretty : ∀ (document : Json) (depth fuel : Nat) (input rest : List Char),
    document.IsWritten → EndsNumber rest →
    skipBlanks input = prettyChars depth document ++ rest →
    2 * (prettyChars depth document).length ≤ fuel + 1 →
    value? (fuel + 1) input = some (document, rest)
  | .null, _, _, _, _, _, _, starts, _ => by
    rw [value?, starts]
    rfl
  | .bool true, _, _, _, _, _, _, starts, _ => by
    rw [value?, starts]
    rfl
  | .bool false, _, _, _, _, _, _, starts, _ => by
    rw [value?, starts]
    rfl
  | .number numeral, depth, fuel, input, rest, written, ends, starts, _ => by
    obtain ⟨first, others, chars, begins⟩ := Numeral.IsWritten.head written
    have read := numeral?_append written ends
    rw [prettyChars] at starts
    rw [chars, List.cons_append] at read starts
    rw [value?_number starts begins, read]
    rfl
  | .string quoted, depth, fuel, input, rest, written, _, starts, _ => by
    obtain ⟨text, rfl⟩ := written
    simp only [prettyChars, List.cons_append, List.append_assoc, List.nil_append] at starts
    rw [value?_string starts, quoted?_ofText, Option.map_some]
    dsimp only
    rw [String.ofList_toList]
  | .array [], _, _, _, _, _, _, starts, _ => by
    rw [value?, starts]
    rfl
  | .array (item :: items), depth, fuel, input, rest, written, _, starts, enough => by
    have blank : ∀ c ∈ lineChars (depth + 1), isBlank c = true := fun _ => isBlank_of_mem_lineChars
    obtain ⟨skipped, filled⟩ := skipBlanks_pretty written.1 blank (depth + 1)
      (itemsChars (depth + 1) [','] items ++ (lineChars depth ++ ']' :: rest))
    simp only [prettyChars, itemsChars, List.cons_append, List.append_assoc, List.nil_append]
      at starts
    simp only [prettyChars, List.length_cons, List.length_append] at enough
    -- The items are read from where the blanks before them have been skipped already.
    obtain ⟨again, -⟩ := skipBlanks_pretty written.1 (List.forall_mem_nil _) (depth + 1)
      (itemsChars (depth + 1) [','] items ++ (lineChars depth ++ ']' :: rest))
    have read := items?_pretty (item :: items) (depth + 1) depth fuel _ rest (by simp) written
      (by simpa only [itemsChars, List.append_assoc, List.nil_append, skipped] using again)
      (by omega)
    rw [value?_array starts skipped filled, read]
    rfl
  | .object [], _, _, _, _, _, _, starts, _ => by
    rw [value?, starts]
    rfl
  | .object ((key, value) :: members), depth, fuel, input, rest, written, _, starts, enough => by
    have blank : ∀ c ∈ lineChars (depth + 1), isBlank c = true := fun _ => isBlank_of_mem_lineChars
    have skipped := skipBlanks_append blank '"' rfl
      (key.written.toList ++ ['"', ':', ' '] ++ (prettyChars (depth + 1) value ++
        (membersChars (depth + 1) [','] members ++ (lineChars depth ++ '\x7d' :: rest))))
    simp only [prettyChars, membersChars, keyChars, List.cons_append, List.append_assoc,
      List.nil_append] at starts skipped
    simp only [prettyChars, List.length_cons, List.length_append] at enough
    have read := members?_pretty ((key, value) :: members) (depth + 1) depth fuel _ rest (by simp)
      written
      (by simpa only [membersChars, keyChars, List.cons_append, List.append_assoc, List.nil_append,
        skipped] using skipBlanks_visible '"' rfl _)
      (by omega)
    rw [value?_object starts skipped nofun, read]
    rfl

/-- The items of an array, up to its closing bracket on a line of its own. -/
theorem items?_pretty : ∀ (items : List Json) (depth outer fuel : Nat) (input rest : List Char),
    items ≠ [] → areWritten items →
    skipBlanks input = skipBlanks (itemsChars depth [] items ++ (lineChars outer ++ ']' :: rest)) →
    2 * (itemsChars depth [] items).length < fuel → items? fuel input = some (items, rest)
  | [], _, _, _, _, _, nonempty, _, _, _ => absurd rfl nonempty
  | item :: items, depth, outer, 0, _, _, _, _, _, enough => absurd enough (Nat.not_lt_zero _)
  | item :: items, depth, outer, fuel + 1, input, rest, _, written, starts, enough => by
    have blank : ∀ c ∈ lineChars depth, isBlank c = true := fun _ => isBlank_of_mem_lineChars
    obtain ⟨skipped, -⟩ := skipBlanks_pretty written.1 blank depth
      (itemsChars depth [','] items ++ (lineChars outer ++ ']' :: rest))
    simp only [itemsChars, List.append_assoc, List.nil_append, skipped] at starts
    simp only [itemsChars, List.length_append, lineChars, List.length_cons] at enough
    obtain ⟨fuel, rfl⟩ : ∃ less, fuel = less + 1 := Nat.exists_eq_succ_of_ne_zero (by omega)
    have ends := ends_itemsChars items depth (ends_lineChars outer (']' :: rest))
    rw [items?, value?_pretty item depth fuel input _ written.1 ends starts (by omega)]
    cases items with
    | nil =>
      have closed : skipBlanks (lineChars outer ++ ']' :: rest) = ']' :: rest :=
        skipBlanks_append (fun _ => isBlank_of_mem_lineChars) _ rfl rest
      simp only [itemsChars, List.nil_append, closed]
    | cons next more =>
      have separated : itemsChars depth [','] (next :: more) ++ (lineChars outer ++ ']' :: rest) =
          ',' :: (itemsChars depth [] (next :: more) ++ (lineChars outer ++ ']' :: rest)) := rfl
      have shorter : (itemsChars depth [','] (next :: more)).length =
          (itemsChars depth [] (next :: more)).length + 1 := rfl
      have others := items?_pretty (next :: more) depth outer (fuel + 1) _ rest (by simp) written.2
        rfl (by omega)
      have comma := skipBlanks_visible ',' rfl
        (itemsChars depth [] (next :: more) ++ (lineChars outer ++ ']' :: rest))
      simp only [separated, comma, others, Option.map_some]

theorem members?_pretty : ∀ (members : List (Quoted × Json)) (depth outer fuel : Nat)
    (input rest : List Char), members ≠ [] → membersWritten members →
    skipBlanks input =
      skipBlanks (membersChars depth [] members ++ (lineChars outer ++ '\x7d' :: rest)) →
    2 * (membersChars depth [] members).length < fuel →
    members? fuel input = some (members, rest)
  | [], _, _, _, _, _, nonempty, _, _, _ => absurd rfl nonempty
  | member :: members, depth, outer, 0, _, _, _, _, _, enough => absurd enough (Nat.not_lt_zero _)
  | (key, value) :: members, depth, outer, fuel + 1, input, rest, _, written, starts, enough => by
    obtain ⟨⟨text, rfl⟩, valueWritten, othersWritten⟩ := written
    have blank : ∀ c ∈ lineChars depth, isBlank c = true := fun _ => isBlank_of_mem_lineChars
    have skipped := skipBlanks_append blank '"' rfl
      ((Quoted.ofText text).written.toList ++ '"' :: ':' :: ' ' :: (prettyChars depth value ++
        (membersChars depth [','] members ++ (lineChars outer ++ '\x7d' :: rest))))
    simp only [membersChars, keyChars, List.cons_append, List.append_assoc, List.nil_append,
      skipped] at starts
    simp only [membersChars, List.length_append, lineChars, List.length_cons] at enough
    obtain ⟨fuel, rfl⟩ : ∃ less, fuel = less + 1 := Nat.exists_eq_succ_of_ne_zero (by omega)
    have ends := ends_membersChars members depth (ends_lineChars outer ('\x7d' :: rest))
    have colon := skipBlanks_visible ':' rfl (' ' :: (prettyChars depth value ++
      (membersChars depth [','] members ++ (lineChars outer ++ '\x7d' :: rest))))
    have space : ∀ c ∈ [' '], isBlank c = true := by simp [isBlank]
    obtain ⟨spaced, -⟩ := skipBlanks_pretty valueWritten space depth
      (membersChars depth [','] members ++ (lineChars outer ++ '\x7d' :: rest))
    have read := value?_pretty value depth fuel _ _ valueWritten ends spaced (by omega)
    rw [List.cons_append, List.nil_append] at read
    rw [members?, starts]
    simp only [quoted?_ofText, colon, read, String.ofList_toList]
    cases members with
    | nil =>
      have closed : skipBlanks (lineChars outer ++ '\x7d' :: rest) = '\x7d' :: rest :=
        skipBlanks_append (fun _ => isBlank_of_mem_lineChars) _ rfl rest
      simp only [membersChars, List.nil_append, closed]
    | cons next more =>
      have separated : membersChars depth [','] (next :: more) ++
          (lineChars outer ++ '\x7d' :: rest) = ',' :: (membersChars depth [] (next :: more) ++
            (lineChars outer ++ '\x7d' :: rest)) := rfl
      have shorter : (membersChars depth [','] (next :: more)).length =
          (membersChars depth [] (next :: more)).length + 1 := rfl
      have others := members?_pretty (next :: more) depth outer (fuel + 1) _ rest (by simp)
        othersWritten rfl (by omega)
      have comma := skipBlanks_visible ',' rfl
        (membersChars depth [] (next :: more) ++ (lineChars outer ++ '\x7d' :: rest))
      simp only [separated, comma, others, Option.map_some]

end

/-- The text of a written document is read back as the document. -/
theorem parse?_pretty {document : Json} (written : document.IsWritten) :
    parse? document.pretty = some document := by
  have starts := (skipBlanks_pretty written (List.forall_mem_nil _) 0 []).1
  rw [List.nil_append, List.append_nil] at starts
  have read := value?_pretty document 0 (2 * (prettyChars 0 document).length + 1) _ [] written
    endsNumber_nil (by simpa using starts) (by omega)
  rw [parse?, toList_pretty]
  simp only [read]
  rfl

end CreatureNaming.Json
