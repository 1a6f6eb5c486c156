import CreatureNaming.Collection
import CreatureNaming.Proofs.Json.Records

/-! Collections that are read back from their texts.

All fields of a creature are written, each as its own reader expects it. Texts, integers and names
of kinds are always read back; that numbers with fractions and times are is assumed of those that
a creature has. Tables have one entry for each key once they are read.
-/

set_option autoImplicit false

namespace CreatureNaming

open Json (RecordField)

/-! ## Creatures -/

theorem Sex.choice?_name (sex : Sex) :
    Json.choice? Sex.all Sex.name (.ofText sex.name) = some sex := by
  apply Json.choice?_ofText
  cases sex <;> rfl

theorem Domestication.choice?_name (domestication : Domestication) :
    Json.choice? Domestication.all Domestication.name (.ofText domestication.name) =
      some domestication := by
  apply Json.choice?_ofText
  cases domestication <;> rfl

theorem CreatureStatus.choice?_name (status : CreatureStatus) :
    Json.choice? CreatureStatus.all CreatureStatus.name (.ofText status.name) = some status := by
  apply Json.choice?_ofText
  cases status <;> rfl

namespace Creature

variable {creature : Creature}

/-- The numbers with fractions and the time that a creature has are read as they were written. -/
structure IsExact (creature : Creature) : Prop where
  breedingValues : ∀ value ∈ creature.breedingValues,
    Json.binary64? (.ofBinary64 value) = some value
  tamingEffectiveness : ∀ value ∈ creature.tamingEffectiveness,
    Json.binary64? (.ofBinary64 value) = some value
  imprintingBonus : ∀ value ∈ creature.imprintingBonus,
    Json.binary64? (.ofBinary64 value) = some value
  added : ∀ added ∈ creature.added, Time.Instant.read? added.text = some added

theorem IsExact.rename (exact : creature.IsExact) (name : String) :
    { creature with name }.IsExact :=
  ⟨exact.breedingValues, exact.tamingEffectiveness, exact.imprintingBonus, exact.added⟩

theorem fields_distinct : (fields.map RecordField.name).Nodup := by
  simp [fields, RecordField.of]

theorem ofJson?_toJson (exact : creature.IsExact) :
    ofJson? (creature.toJson Json.ofBinary64) = some creature := by
  have arkId : Json.optional? Json.uint64?
      (.ofOption (fun id => .ofNat id.toNat) creature.arkId) = some creature.arkId :=
    Json.optional?_ofOption rfl fun id _ => Json.uint64?_ofNat id
  have wildLevels : Json.list? Json.int32?
      (.array (creature.wildLevels.map fun level => .ofInt level.toInt)) =
        some creature.wildLevels :=
    Json.list?_map fun level _ => Json.int32?_ofInt level
  have breedingValues : Json.list? Json.binary64?
      (.array (creature.breedingValues.map Json.ofBinary64)) = some creature.breedingValues :=
    Json.list?_map exact.breedingValues
  have tamingEffectiveness : Json.optional? Json.binary64?
      (.ofOption Json.ofBinary64 creature.tamingEffectiveness) =
        some creature.tamingEffectiveness :=
    Json.optional?_ofOption rfl exact.tamingEffectiveness
  have imprintingBonus : Json.optional? Json.binary64?
      (.ofOption Json.ofBinary64 creature.imprintingBonus) = some creature.imprintingBonus :=
    Json.optional?_ofOption rfl exact.imprintingBonus
  have added : Json.optional? instant?
      (.ofOption (fun added => .ofText added.text) creature.added) = some creature.added := by
    apply Json.optional?_ofOption rfl
    intro added member
    rw [instant?, Json.ofText_text?, Option.bind_some]
    exact exact.added added member
  have colors : Json.list? Json.uint8?
      (.array (creature.colors.map fun color => .ofNat color.toNat)) = some creature.colors :=
    Json.list?_map fun color _ => Json.uint8?_ofNat color
  have isPlaceholder : Json.bool? (.bool creature.isPlaceholder) = some creature.isPlaceholder := by
    rw [Json.bool?]
  rw [ofJson?, toJson, Json.record?_record fields_distinct (by simp [fields, RecordField.of])]
  simp only [fields, List.map_cons, List.map_nil]
  -- One field after the other, in the order of the record.
  rw [Json.setItems_of (Json.uint64?_ofNat _), Json.setItems_of arkId]
  rw [Json.setItems_of (Json.ofText_text? _), Json.setItems_of (Json.ofText_text? _)]
  rw [Json.setItems_of (Sex.choice?_name _), Json.setItems_of (Json.ofText_text? _)]
  rw [Json.setItems_of (Json.ofText_text? _), Json.setItems_of (Json.ofText_text? _)]
  rw [Json.setItems_of wildLevels, Json.setItems_of breedingValues]
  rw [Json.setItems_of (Domestication.choice?_name _), Json.setItems_of tamingEffectiveness]
  rw [Json.setItems_of imprintingBonus, Json.setItems_of (Json.uint32?_ofNat _)]
  rw [Json.setItems_of (Json.uint32?_ofNat _), Json.setItems_of added, Json.setItems_of colors]
  rw [Json.setItems_of (CreatureStatus.choice?_name _), Json.setItems_of isPlaceholder]
  rw [Json.setItems]

theorem isWritten_toJson (creature : Creature) :
    (creature.toJson Json.ofBinary64).IsWritten := by
  have number : ∀ value, (Json.ofBinary64 value).IsWritten := Json.isWritten_ofBinary64
  apply Json.isWritten_record
  simp only [List.forall_mem_cons]
  refine ⟨Json.isWritten_ofNat _, Json.isWritten_ofOption fun _ => Json.isWritten_ofNat _,
    Json.isWritten_ofText _, Json.isWritten_ofText _, Json.isWritten_ofText _,
    Json.isWritten_ofText _, Json.isWritten_ofText _, Json.isWritten_ofText _,
    Json.isWritten_map fun _ _ => Json.isWritten_ofInt _, Json.isWritten_map fun _ _ => number _,
    Json.isWritten_ofText _, Json.isWritten_ofOption number, Json.isWritten_ofOption number,
    Json.isWritten_ofNat _, Json.isWritten_ofNat _,
    Json.isWritten_ofOption fun _ => Json.isWritten_ofText _,
    Json.isWritten_map fun _ _ => Json.isWritten_ofNat _, Json.isWritten_ofText _, trivial,
    List.forall_mem_nil _⟩

end Creature

/-! ## Species -/

namespace Species

variable {species : Species}

/-- Each code of a stat has one name. -/
def IsKeyed (species : Species) : Prop := (species.statNames.map Prod.fst).Nodup

theorem fields_distinct : (fields.map RecordField.name).Nodup := by
  simp [fields, RecordField.of]

theorem ofJson?_toJson (keyed : species.IsKeyed) : ofJson? species.toJson = some species := by
  have statNames := Json.table?_record keyed fun entry _ => Json.ofText_text? entry.2
  have usedStats : Json.optional? (Json.list? Json.text?)
      (.ofOption (fun codes => .array (codes.map .ofText)) species.usedStats) =
        some species.usedStats :=
    Json.optional?_ofOption rfl fun _ _ => Json.list?_map fun code _ => Json.ofText_text? code
  have colorRegions : Json.list? (Json.optional? Json.text?)
      (.array (species.colorRegions.map (.ofOption .ofText))) = some species.colorRegions :=
    Json.list?_map fun _ _ => Json.optional?_ofOption rfl fun name _ => Json.ofText_text? name
  rw [ofJson?, toJson, Json.record?_record fields_distinct (by simp [fields, RecordField.of])]
  simp only [fields, List.map_cons, List.map_nil]
  rw [Json.setItems_of (Json.ofText_text? _), Json.setItems_of statNames]
  rw [Json.setItems_of usedStats, Json.setItems_of colorRegions]
  rw [Json.setItems]

theorem isWritten_toJson (species : Species) : species.toJson.IsWritten := by
  apply Json.isWritten_record
  simp only [List.forall_mem_cons]
  refine ⟨Json.isWritten_ofText _, ?_, ?_, ?_, List.forall_mem_nil _⟩
  · apply Json.isWritten_record
    rw [List.forall_mem_map]
    exact fun _ _ => Json.isWritten_ofText _
  · apply Json.isWritten_ofOption
    exact fun _ => Json.isWritten_map fun _ _ => Json.isWritten_ofText _
  · apply Json.isWritten_map
    exact fun _ _ => Json.isWritten_ofOption Json.isWritten_ofText

theorem isKeyed_of_ofJson? {document : Json} (read : ofJson? document = some species) :
    species.IsKeyed := by
  have starts : IsKeyed {} := List.nodup_nil
  refine Json.record?_keeps ?_ starts read
  simp only [fields, List.forall_mem_cons]
  refine ⟨?_, ?_, ?_, ?_, List.forall_mem_nil _⟩
  · exact RecordField.of_keeps fun _ _ _ _ keyed => keyed
  · exact RecordField.of_keeps fun _ _ _ read _ => Json.table?_nodup read
  · exact RecordField.of_keeps fun _ _ _ _ keyed => keyed
  · exact RecordField.of_keeps fun _ _ _ _ keyed => keyed

end Species

/-! ## Colors -/

namespace ColorTable

variable {colors : Table UInt8 String}

/-- How the number of a color is written. -/
def key (color : UInt8) : Json.Quoted := .ofText (.ofList (Number.decimalDigits color.toNat))

theorem key?_key (color : UInt8) : key? (key color) = some color := by
  have written : (key color).written.toList = Number.decimalDigits color.toNat := by
    rw [key, Json.written_ofText, String.toList_ofList]
    intro c member
    rw [String.toList_ofList] at member
    have digit := Number.isDigit_of_mem_decimalDigits member
    refine ⟨?_, ?_, ?_⟩
    · rintro rfl
      cases digit
    · rintro rfl
      cases digit
    · rw [Char.isDigit, Bool.and_eq_true, decide_eq_true_iff] at digit
      exact Nat.le_trans (by decide) (UInt32.le_iff_toNat_le.mp digit.1)
  have chars : (Json.Numeral.ofNat color.toNat).chars = Number.decimalDigits color.toNat := by
    simp [Json.Numeral.ofNat, Json.Numeral.chars]
  have read := Json.numeral?_append (Json.isWritten_ofNat color.toNat) Json.endsNumber_nil
  rw [List.append_nil, chars] at read
  rw [key?, written, read]
  exact Json.uint8?_ofNat color

theorem ofJson?_toJson (distinct : (colors.map Prod.fst).Nodup) :
    ofJson? (toJson colors) = some colors := by
  have put := Json.putMembers?_map [] (fun entry _ => key?_key entry.1)
    fun entry (_ : entry ∈ colors) => Json.ofText_text? entry.2
  rw [Table.putAll_entries distinct] at put
  rw [toJson, Json.record, List.map_map]
  exact put

theorem isWritten_toJson (colors : Table UInt8 String) : (toJson colors).IsWritten := by
  apply Json.isWritten_record
  rw [List.forall_mem_map]
  exact fun _ _ => Json.isWritten_ofText _

theorem nodup_of_ofJson? {document : Json} (read : ofJson? document = some colors) :
    (colors.map Prod.fst).Nodup := by
  unfold ofJson? at read
  split at read
  · exact Json.putMembers?_nodup read
  · cases read

end ColorTable

/-! ## Collections -/

namespace Collection

variable {collection : Collection}

/-- Each table of a collection has one entry for each key. -/
structure IsKeyed (collection : Collection) : Prop where
  statNames : ∀ species ∈ collection.species, species.IsKeyed
  colors : (collection.colors.map Prod.fst).Nodup

theorem fields_distinct : (fields.map RecordField.name).Nodup := by
  simp [fields, RecordField.of]

theorem ofJson?_toJson (keyed : collection.IsKeyed)
    (exact : ∀ creature ∈ collection.creatures, creature.IsExact) :
    ofJson? (collection.toJson Json.ofBinary64) = some collection := by
  have creatures : Json.list? Creature.ofJson?
      (.array (collection.creatures.map (Creature.toJson Json.ofBinary64))) =
        some collection.creatures :=
    Json.list?_map fun creature member => Creature.ofJson?_toJson (exact creature member)
  have species : Json.list? Species.ofJson? (.array (collection.species.map Species.toJson)) =
      some collection.species :=
    Json.list?_map fun species member => Species.ofJson?_toJson (keyed.statNames species member)
  rw [ofJson?, toJson, Json.record?_record fields_distinct (by simp [fields, RecordField.of])]
  simp only [fields, List.map_cons, List.map_nil]
  rw [Json.setItems_of creatures, Json.setItems_of species]
  rw [Json.setItems_of (ColorTable.ofJson?_toJson keyed.colors)]
  rw [Json.setItems]

theorem isWritten_toJson (collection : Collection) :
    (collection.toJson Json.ofBinary64).IsWritten := by
  apply Json.isWritten_record
  simp only [List.forall_mem_cons]
  refine ⟨?_, ?_, ColorTable.isWritten_toJson _, List.forall_mem_nil _⟩
  · exact Json.isWritten_map fun creature _ => creature.isWritten_toJson
  · exact Json.isWritten_map fun species _ => species.isWritten_toJson

/-- A collection is read back from its text. -/
theorem read?_text (keyed : collection.IsKeyed)
    (exact : ∀ creature ∈ collection.creatures, creature.IsExact) :
    read? collection.text = some collection := by
  rw [read?, text, Json.parse?_pretty collection.isWritten_toJson, Option.bind_some]
  exact ofJson?_toJson keyed exact

theorem isKeyed_of_read? {text : String} (read : read? text = some collection) :
    collection.IsKeyed := by
  obtain ⟨document, -, read⟩ := Option.bind_eq_some_iff.mp read
  have starts : IsKeyed {} := ⟨List.forall_mem_nil _, List.nodup_nil⟩
  refine Json.record?_keeps ?_ starts read
  simp only [fields, List.forall_mem_cons]
  refine ⟨?_, ?_, ?_, List.forall_mem_nil _⟩
  · exact RecordField.of_keeps fun _ _ _ _ keyed => ⟨keyed.statNames, keyed.colors⟩
  · -- Each species of the list was read by itself, from an empty table.
    apply RecordField.of_keeps
    intro document species before read keyed
    refine ⟨fun one member => ?_, keyed.colors⟩
    obtain ⟨document, read⟩ := Json.exists_of_mem_list? read member
    exact Species.isKeyed_of_ofJson? read
  · apply RecordField.of_keeps
    intro document colors before read keyed
    exact ⟨keyed.statNames, ColorTable.nodup_of_ofJson? read⟩

end Collection

end CreatureNaming
