import CreatureNaming.Proofs.Pattern.Spelling
import CreatureNaming.Proofs.Text.Slices

/-! Parts of a text, and parts of its bytes.

A search of the bytes of a part in the bytes of a text ends at a character of the text: the first
byte of a character is no byte within another one, and a character is read back from its bytes. So
the least offset in bytes is behind as many characters as the least position in characters says.
-/

set_option autoImplicit false

namespace CreatureNaming.Text

variable {text part : List Char} {position offset : Nat}

/-- The bytes of a text in UTF-8. -/
def bytes (text : List Char) : List UInt8 := text.flatMap String.utf8EncodeChar

theorem bytes_cons (c : Char) (rest : List Char) :
    bytes (c :: rest) = String.utf8EncodeChar c ++ bytes rest := List.flatMap_cons

theorem bytes_append (first second : List Char) :
    bytes (first ++ second) = bytes first ++ bytes second := List.flatMap_append

@[simp]
theorem length_bytes (text : List Char) : (bytes text).length = byteLength text := by
  induction text with
  | nil => rfl
  | cons c rest ih =>
    rw [bytes_cons, List.length_append, String.length_utf8EncodeChar, ih, byteLength_cons]

/-- The offsets at which the bytes of a part stand in the bytes of a text. -/
def offsets (part text : List Char) : Set Nat := {offset | bytes part <+: (bytes text).drop offset}

/-! ## Characters from their bytes -/

/-- The bytes of a character are the start of no other one, whatever is behind that. -/
theorem eq_of_encoded_prefix {c d : Char} {rest : List UInt8}
    (start : String.utf8EncodeChar c <+: String.utf8EncodeChar d ++ rest) : c = d := by
  obtain ⟨behind, same⟩ := start
  have decoded : ((String.utf8EncodeChar c).toByteArray ++ behind.toByteArray).utf8DecodeChar? 0 =
      some c := ByteArray.utf8DecodeChar?_utf8EncodeChar_append
  rw [← List.toByteArray_append, same, List.toByteArray_append,
    ByteArray.utf8DecodeChar?_utf8EncodeChar_append] at decoded
  exact (Option.some.inj decoded).symm

theorem bytes_prefix_iff (part text : List Char) : bytes part <+: bytes text ↔ part <+: text := by
  constructor
  · intro start
    induction part generalizing text with
    | nil => exact List.nil_prefix
    | cons c part ih =>
      cases text with
      | nil => simp [bytes] at start
      | cons d text =>
        rw [bytes_cons, bytes_cons] at start
        obtain rfl := eq_of_encoded_prefix ((List.prefix_append _ _).trans start)
        exact List.cons_prefix_cons.mpr ⟨rfl, ih text ((List.prefix_append_right_inj _).mp start)⟩
  · rintro ⟨rest, rfl⟩
    exact ⟨bytes rest, (bytes_append part rest).symm⟩

/-- Within the bytes of a character no other one starts. -/
theorem not_prefix_within {c : Char} {rest : List UInt8} (nonempty : part ≠ []) (behind : 0 < offset)
    (within : offset < c.utf8Size) :
    ¬ bytes part <+: (String.utf8EncodeChar c ++ rest).drop offset := by
  obtain ⟨d, others, rfl⟩ := List.exists_cons_of_ne_nil nonempty
  intro start
  have inside : offset < (String.utf8EncodeChar c).length := by
    rwa [String.length_utf8EncodeChar]
  have some : 0 < (String.utf8EncodeChar d).length :=
    List.length_pos_iff.mpr String.utf8EncodeChar_ne_nil
  have head := start.getElem (i := 0) (by rw [length_bytes]; exact byteLength_pos nonempty)
  simp only [bytes_cons, List.getElem_drop, Nat.add_zero, List.getElem_append_left some,
    List.getElem_append_left inside] at head
  have first : (String.utf8EncodeChar d)[0].IsUTF8FirstByte :=
    UInt8.isUTF8FirstByte_getElem_utf8EncodeChar.mpr rfl
  rw [head, UInt8.isUTF8FirstByte_getElem_utf8EncodeChar] at first
  exact behind.ne' first

/-- Where the bytes of a part stand, a character of the text starts. -/
theorem exists_place (nonempty : part ≠ []) (stands : offset ∈ offsets part text) :
    ∃ position ∈ places part text, byteLength (text.take position) = offset := by
  induction text generalizing offset with
  | nil =>
    have none : bytes part = [] := by simpa [offsets, bytes] using stands
    have size := byteLength_pos nonempty
    rw [← length_bytes, none] at size
    exact absurd size (Nat.lt_irrefl 0)
  | cons c rest ih =>
    rw [offsets, Set.mem_ofPred_eq, bytes_cons] at stands
    obtain rfl | behind := Nat.eq_zero_or_pos offset
    · rw [List.drop_zero, ← bytes_cons, bytes_prefix_iff] at stands
      exact ⟨0, stands, rfl⟩
    · obtain within | after := Nat.lt_or_ge offset c.utf8Size
      · exact absurd stands (not_prefix_within nonempty behind within)
      · have size := String.length_utf8EncodeChar c
        rw [List.drop_append, List.drop_of_length_le (by omega), List.nil_append, size] at stands
        obtain ⟨position, place, sized⟩ := ih stands
        refine ⟨position + 1, place, ?_⟩
        rw [List.take_succ_cons, byteLength_cons, sized]
        omega

/-- Behind the characters before a place of a part, the bytes of the part stand. -/
theorem mem_offsets (place : position ∈ places part text) :
    byteLength (text.take position) ∈ offsets part text := by
  have split : bytes text = bytes (text.take position) ++ bytes (text.drop position) := by
    rw [← bytes_append, List.take_append_drop]
  rw [offsets, Set.mem_ofPred_eq, split, ← length_bytes, List.drop_append_length, bytes_prefix_iff]
  exact place

theorem byteLength_take_le {first second : Nat} (text : List Char) (ordered : first ≤ second) :
    byteLength (text.take first) ≤ byteLength (text.take second) := by
  rw [← List.take_append_drop first (text.take second), List.take_take, Nat.min_eq_left ordered,
    byteLength_append]
  exact Nat.le_add_right _ _

/-- The least offset of a part is behind as many characters as its least position says. -/
theorem exists_before (least : IsLeast (places part text) position) :
    ∃ before, before <+: text ∧ before.length = position ∧
      IsLeast (offsets part text) (byteLength before) := by
  obtain ⟨place, lower⟩ := least
  refine ⟨text.take position, List.take_prefix _ _, ?_, mem_offsets place, ?_⟩
  · -- A position behind the text is no least one: there is nothing left to stand there.
    rw [List.length_take, Nat.min_eq_left]
    by_contra behind
    have empty : part <+: text.drop text.length := by
      rw [List.drop_length]
      simpa [places, List.drop_eq_nil_of_le (Nat.le_of_not_le behind)] using place
    exact behind (lower empty)
  · intro offset stands
    obtain rfl | nonempty := eq_or_ne part []
    · have first : position ≤ 0 := lower List.nil_prefix
      rw [Nat.le_zero.mp first]
      exact Nat.zero_le offset
    · obtain ⟨other, place, rfl⟩ := exists_place nonempty stands
      exact byteLength_take_le text (lower place)

end CreatureNaming.Text
