import CreatureNaming.Json.Decode
import CreatureNaming.Proofs.Json.Documents

/-! Values that are read back from the documents that are written for them.

A reader that reads back each item that is written for it also reads back lists of such items,
items that may be absent, tables, and records with such fields.
-/

set_option autoImplicit false

namespace CreatureNaming.Json

/-! ## Texts and integers -/

@[simp] theorem ofText_text? (text : String) : (Json.ofText text).text? = some text :=
  text?_ofText text

theorem intIn?_ofInt {low high value : Int} (atLeast : low ≤ value) (atMost : value ≤ high)
    (least : Binary64.minInt64 ≤ low) (most : high ≤ maxUInt64) :
    (Json.ofInt value).intIn? low high = some value := by
  rw [Json.ofInt, intIn?, toInt?_ofInt (Int.le_trans least atLeast) (Int.le_trans atMost most)]
  simp only [Option.filter_some, atLeast, atMost, decide_true, Bool.and_self, if_true]

theorem intIn?_ofNat {size value : Nat} (fits : value < size) (most : size ≤ UInt64.size) :
    (Json.ofNat value).intIn? 0 (size - 1) = some (value : Int) := by
  have bound : value ≤ maxUInt64 := Nat.le_sub_one_of_lt (Nat.lt_of_lt_of_le fits most)
  have atLeast : (0 : Int) ≤ value := Int.natCast_nonneg value
  have atMost : (value : Int) ≤ size - 1 := by omega
  rw [Json.ofNat, intIn?, toInt?_ofNat bound]
  simp only [Option.filter_some, atLeast, atMost, decide_true, Bool.and_self, if_true]

@[simp] theorem uint64?_ofNat (value : UInt64) : uint64? (.ofNat value.toNat) = some value := by
  rw [uint64?, intIn?_ofNat value.toNat_lt (by decide), Option.map_some, Int.toNat_natCast,
    UInt64.ofNat_toNat]

@[simp] theorem uint32?_ofNat (value : UInt32) : uint32? (.ofNat value.toNat) = some value := by
  rw [uint32?, intIn?_ofNat value.toNat_lt (by decide), Option.map_some, Int.toNat_natCast,
    UInt32.ofNat_toNat]

@[simp] theorem uint8?_ofNat (value : UInt8) : uint8? (.ofNat value.toNat) = some value := by
  rw [uint8?, intIn?_ofNat value.toNat_lt (by decide), Option.map_some, Int.toNat_natCast,
    UInt8.ofNat_toNat]

@[simp] theorem int32?_ofInt (value : Int32) : int32? (.ofInt value.toInt) = some value := by
  rw [int32?, intIn?_ofInt value.minValue_le_toInt value.toInt_le (by decide) (by decide),
    Option.map_some, Int32.ofInt_toInt]

/-! ## Lists, absence and names -/

variable {Item : Type} {item? : Json → Option Item} {encode : Item → Json} {document : Json}

theorem list?_map {items : List Item} (reads : ∀ item ∈ items, item? (encode item) = some item) :
    list? item? (.array (items.map encode)) = some items := by
  rw [list?]
  induction items with
  | nil => rfl
  | cons item rest ih =>
    rw [List.forall_mem_cons] at reads
    rw [List.map_cons, List.mapM_cons, reads.1, ih reads.2]
    rfl

/-- Each item of a list is read from a document. -/
theorem exists_of_mem_list? {items : List Item} {item : Item}
    (read : list? item? document = some items) (member : item ∈ items) :
    ∃ document, item? document = some item := by
  unfold list? at read
  split at read
  · next documents =>
    induction documents generalizing items with
    | nil =>
      cases read
      cases member
    | cons first rest ih =>
      rw [List.mapM_cons] at read
      obtain ⟨head, taken, read⟩ := Option.bind_eq_some_iff.mp read
      obtain ⟨others, later, read⟩ := Option.bind_eq_some_iff.mp read
      cases read
      rcases List.mem_cons.mp member with rfl | member
      · exact ⟨first, taken⟩
      · exact ih member later
  · cases read

/-- What is read is not null, which stands for absence. -/
theorem optional?_ofOption {value : Option Item} (absent : item? .null = none)
    (reads : ∀ item ∈ value, item? (encode item) = some item) :
    optional? item? (.ofOption encode value) = some value := by
  cases value with
  | none => rfl
  | some item =>
    have read := reads item rfl
    rw [Json.ofOption]
    unfold optional?
    split
    · next same =>
      rw [same, absent] at read
      cases read
    · rw [read]
      rfl

theorem choice?_ofText {items : List Item} {name : Item → String} {item : Item}
    (found : items.find? (fun other => name other == name item) = some item) :
    choice? items name (.ofText (name item)) = some item := by
  rw [Json.ofText, choice?, text?_ofText]
  exact found

/-! ## Tables -/

section

variable {State : Type}

/-- What each step keeps holds at the end. -/
theorem foldlM_keeps {Step : Type} {holds : State → Prop} {step : State → Step → Option State}
    (keeps : ∀ state entry next, step state entry = some next → holds state → holds next)
    {entries : List Step} {start final : State} (starts : holds start)
    (ran : entries.foldlM step start = some final) : holds final := by
  induction entries generalizing start with
  | nil =>
    cases ran
    exact starts
  | cons entry rest ih =>
    rw [List.foldlM_cons] at ran
    obtain ⟨next, stepped, others⟩ := Option.bind_eq_some_iff.mp ran
    exact ih (keeps start entry next stepped starts) others

end

variable {Key Value : Type} [DecidableEq Key] {key? : Quoted → Option Key}
  {value? : Json → Option Value}

/-- Put the entries of an object into a table, one after the other. -/
def putMembers? (key? : Quoted → Option Key) (value? : Json → Option Value)
    (table : Table Key Value) (members : List (Quoted × Json)) : Option (Table Key Value) :=
  members.foldlM
    (fun table (key, document) => do return Table.put (← key? key) (← value? document) table) table

theorem putMembers?_map {encodeKey : Key → Quoted} {encodeValue : Value → Json}
    {entries : List (Key × Value)} (table : Table Key Value)
    (keys : ∀ entry ∈ entries, key? (encodeKey entry.1) = some entry.1)
    (values : ∀ entry ∈ entries, value? (encodeValue entry.2) = some entry.2) :
    putMembers? key? value? table
        (entries.map fun entry => (encodeKey entry.1, encodeValue entry.2)) =
      some (Table.putAll entries table) := by
  induction entries generalizing table with
  | nil => rfl
  | cons entry rest ih =>
    rw [List.forall_mem_cons] at keys values
    -- The first entry goes into the table before the others do.
    have others := ih (Table.put entry.1 entry.2 table) keys.2 values.2
    rw [putMembers?, List.map_cons, List.foldlM_cons]
    simp only [keys.1, values.1, Option.bind_eq_bind, Option.bind_some]
    exact others

theorem putMembers?_nodup {table : Table Key Value} {members : List (Quoted × Json)}
    (read : putMembers? key? value? [] members = some table) : (table.map Prod.fst).Nodup := by
  have keeps : ∀ (before : Table Key Value) (member : Quoted × Json) (after : Table Key Value),
      (do return Table.put (← key? member.1) (← value? member.2) before) = some after →
        (before.map Prod.fst).Nodup → (after.map Prod.fst).Nodup := by
    intro before member after put distinct
    obtain ⟨key, -, put⟩ := Option.bind_eq_some_iff.mp put
    obtain ⟨value, -, put⟩ := Option.bind_eq_some_iff.mp put
    cases put
    exact Table.nodup_put key value distinct
  have starts : (([] : Table Key Value).map Prod.fst).Nodup := List.nodup_nil
  exact foldlM_keeps keeps starts read

/-! ## Tables with texts as keys -/

theorem table?_record {encode : Value → Json} {table : Table String Value}
    (distinct : (table.map Prod.fst).Nodup)
    (values : ∀ entry ∈ table, value? (encode entry.2) = some entry.2) :
    table? value? (.record (table.map fun (key, value) => (key, encode value))) = some table := by
  have put := putMembers?_map [] (fun entry _ => text?_ofText entry.1) values
  rw [Table.putAll_entries distinct] at put
  rw [Json.record, List.map_map]
  exact put

theorem table?_nodup {table : Table String Value} (read : table? value? document = some table) :
    (table.map Prod.fst).Nodup := by
  unfold table? at read
  split at read
  · exact putMembers?_nodup read
  · cases read

end CreatureNaming.Json
