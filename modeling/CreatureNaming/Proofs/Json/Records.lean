import CreatureNaming.Proofs.Json.Values

/-! Records that are read back.

An object that names all fields of a record in their order is read as the array of their values.
What the initial record fulfils and every field keeps is true of all records that are read.
-/

set_option autoImplicit false

namespace CreatureNaming.Json

variable {Record : Type} {fields : List (RecordField Record)} {record initial final : Record}

/-! ## Reading the fields in their order -/

theorem setMembers_inOrder (distinct : (fields.map RecordField.name).Nodup)
    {before after : List (RecordField Record)} (whole : fields = before ++ after)
    {seen : List String} (among : ∀ name ∈ seen, name ∈ before.map RecordField.name)
    {members : List (String × Json)} (named : members.map Prod.fst = after.map RecordField.name)
    (record : Record) :
    setMembers fields seen (members.map fun (name, value) => (.ofText name, value)) record =
      setItems after (members.map Prod.snd) record := by
  induction after generalizing before seen members record with
  | nil =>
    have none : members = [] := List.map_eq_nil_iff.mp named
    subst none
    rfl
  | cons field after ih =>
    cases members with
    | nil => cases named
    | cons member others =>
      obtain ⟨name, document⟩ := member
      rw [List.map_cons, List.map_cons, List.cons.injEq] at named
      obtain ⟨rfl, named⟩ := named
      -- No earlier field has this name, so it is this field that is found, for the first time.
      have fresh : field.name ∉ before.map RecordField.name := by
        rw [whole, List.map_append, List.map_cons] at distinct
        exact fun member => (List.nodup_append.mp distinct).2.2 _ member _ List.mem_cons_self rfl
      have found : fields.find? (fun other => other.name == field.name) = some field := by
        rw [whole, List.find?_append, List.find?_eq_none.mpr, List.find?_cons_of_pos]
        · rfl
        · simp
        · intro other member same
          rw [← eq_of_beq same] at fresh
          exact fresh (List.mem_map_of_mem member)
      have unseen : seen.contains field.name = false := by
        rw [List.contains_eq_mem, decide_eq_false_iff_not]
        exact fun member => fresh (among _ member)
      rw [List.map_cons, setMembers, text?_ofText]
      simp only [found, unseen, Bool.false_eq_true, if_false]
      rw [List.map_cons, setItems]
      congr 1
      funext next
      have passed : fields = (before ++ [field]) ++ after := by rw [whole, List.append_cons]
      refine ih passed ?_ named next
      rw [List.forall_mem_cons, List.map_append]
      refine ⟨by simp, fun name member => ?_⟩
      exact List.mem_append_left _ (among name member)

theorem record?_record (distinct : (fields.map RecordField.name).Nodup)
    {members : List (String × Json)} (named : members.map Prod.fst = fields.map RecordField.name) :
    (Json.record members).record? fields initial =
      setItems fields (members.map Prod.snd) initial :=
  setMembers_inOrder distinct (List.nil_append fields).symm (List.forall_mem_nil _) named initial

/-- A field that reads back what is written for it takes it over. -/
theorem setItems_of {Value : Type} {name : String} {value? : Json → Option Value}
    {put : Value → Record → Record} {document : Json} {value : Value}
    (reads : value? document = some value) (items : List Json) (record : Record) :
    setItems (.of name value? put :: fields) (document :: items) record =
      setItems fields items (put value record) := by
  simp only [setItems, RecordField.of, reads, Option.map_some, Option.bind_some]

/-! ## What every field keeps -/

section

variable {holds : Record → Prop}

/-- A field keeps what putting its values into a record keeps. -/
theorem RecordField.of_keeps {Value : Type} {name : String} {value? : Json → Option Value}
    {put : Value → Record → Record}
    (keeps : ∀ document value record, value? document = some value → holds record →
      holds (put value record)) :
    ∀ document record next, (RecordField.of name value? put).set document record = some next →
      holds record → holds next := by
  intro document record next taken before
  obtain ⟨value, read, rfl⟩ := Option.map_eq_some_iff.mp taken
  exact keeps document value record read before

theorem setMembers_keeps
    (keeps : ∀ field ∈ fields, ∀ document record next, field.set document record = some next →
      holds record → holds next) {seen : List String} {members : List (Quoted × Json)}
    (starts : holds record) (read : setMembers fields seen members record = some final) :
    holds final := by
  induction members generalizing seen record with
  | nil =>
    cases read
    exact starts
  | cons member rest ih =>
    rw [setMembers] at read
    split at read
    · cases read
    · split at read
      · exact ih starts read
      · next field found =>
        split at read
        · cases read
        · obtain ⟨next, taken, others⟩ := Option.bind_eq_some_iff.mp read
          have member := List.mem_of_find?_eq_some found
          exact ih (keeps field member _ record next taken starts) others

theorem setItems_keeps
    (keeps : ∀ field ∈ fields, ∀ document record next, field.set document record = some next →
      holds record → holds next) {items : List Json}
    (starts : holds record) (read : setItems fields items record = some final) : holds final := by
  induction fields generalizing items record with
  | nil =>
    cases items with
    | nil =>
      cases read
      exact starts
    | cons item rest => cases read
  | cons field fields ih =>
    rw [List.forall_mem_cons] at keeps
    cases items with
    | nil =>
      cases read
      exact starts
    | cons item rest =>
      obtain ⟨next, taken, others⟩ := Option.bind_eq_some_iff.mp read
      exact ih keeps.2 (keeps.1 item record next taken starts) others

theorem record?_keeps
    (keeps : ∀ field ∈ fields, ∀ document record next, field.set document record = some next →
      holds record → holds next) {document : Json} (starts : holds initial)
    (read : document.record? fields initial = some final) : holds final := by
  unfold record? at read
  split at read
  · exact setMembers_keeps keeps starts read
  · exact setItems_keeps keeps starts read
  · cases read

end

/-! ## The documents of records -/

theorem areWritten_iff {items : List Json} :
    areWritten items ↔ ∀ item ∈ items, item.IsWritten := by
  induction items with
  | nil => exact ⟨fun _ => nofun, fun _ => trivial⟩
  | cons item rest ih => rw [areWritten, List.forall_mem_cons, ih]

theorem isWritten_map {Item : Type} {encode : Item → Json} {items : List Item}
    (written : ∀ item ∈ items, (encode item).IsWritten) :
    (Json.array (items.map encode)).IsWritten := by
  apply areWritten_iff.mpr
  intro document member
  obtain ⟨item, inside, rfl⟩ := List.mem_map.mp member
  exact written item inside

theorem isWritten_record {members : List (String × Json)}
    (written : ∀ member ∈ members, member.2.IsWritten) : (Json.record members).IsWritten := by
  rw [Json.record, IsWritten]
  induction members with
  | nil => trivial
  | cons member rest ih =>
    rw [List.forall_mem_cons] at written
    exact ⟨⟨member.1, rfl⟩, written.1, ih written.2⟩

theorem isWritten_ofText (text : String) : (Json.ofText text).IsWritten := ⟨text, rfl⟩

theorem isWritten_ofOption {Item : Type} {encode : Item → Json} {value : Option Item}
    (written : ∀ item, (encode item).IsWritten) : (Json.ofOption encode value).IsWritten := by
  cases value with
  | none => trivial
  | some item => exact written item

theorem isWritten_ofBinary64 (number : Binary64) : (Json.ofBinary64 number).IsWritten := by
  cases number with
  | finite negative magnitude => exact isWritten_ofMagnitude negative magnitude
  | infinite negative => trivial
  | nan => trivial

end CreatureNaming.Json
