import CreatureNaming.Json.Number
import CreatureNaming.Json.Quoted
import CreatureNaming.Table

/-! Reading values from JSON documents.

Each reader gives none when the document does not have the form it expects.
-/

set_option autoImplicit false

namespace CreatureNaming.Json

def text? : Json → Option String
  | .string quoted => quoted.text?
  | _ => none

def bool? : Json → Option Bool
  | .bool value => some value
  | _ => none

/-- An integer between two limits. -/
def intIn? (low high : Int) : Json → Option Int
  | .number numeral => numeral.toInt?.filter fun value => low ≤ value && value ≤ high
  | _ => none

def uint64? (document : Json) : Option UInt64 :=
  (document.intIn? 0 (UInt64.size - 1)).map fun value => .ofNat value.toNat

def uint32? (document : Json) : Option UInt32 :=
  (document.intIn? 0 (UInt32.size - 1)).map fun value => .ofNat value.toNat

def uint8? (document : Json) : Option UInt8 :=
  (document.intIn? 0 (UInt8.size - 1)).map fun value => .ofNat value.toNat

def int32? (document : Json) : Option Int32 :=
  (document.intIn? Int32.minValue.toInt Int32.maxValue.toInt).map fun value => .ofInt value

/-- A number in double precision; integers are numbers too. -/
def binary64? : Json → Option Binary64
  | .number numeral =>
      match numeral.toInt? with
      | some value => some (.ofInt value)
      | none => numeral.toBinary64?
  | _ => none

def list? {Item : Type} (item? : Json → Option Item) : Json → Option (List Item)
  | .array items => items.mapM item?
  | _ => none

/-- A value, or null for its absence. -/
def optional? {Item : Type} (item? : Json → Option Item) : Json → Option (Option Item)
  | .null => some none
  | document => (item? document).map some

/-- One of some names: as a string, or as the only member of an object with the value null. -/
def choice? {Item : Type} (items : List Item) (name : Item → String) : Json → Option Item
  | .string quoted => quoted.text?.bind named?
  | .object [(key, .null)] => key.text?.bind named?
  | _ => none
where
  named? (text : String) : Option Item := items.find? fun item => name item == text

/-- A table with texts as keys; the last of several values of a key counts. -/
def table? {Value : Type} (value? : Json → Option Value) : Json → Option (Table String Value)
  | .object members =>
      members.foldlM
        (fun table (key, document) => do
          return Table.put (← key.text?) (← value? document) table)
        []
  | _ => none

/-- A field of a record: its name, and how its value is taken over. -/
structure RecordField (Record : Type) where
  name : String
  set : Json → Record → Option Record

/-- A field that a reader reads. -/
def RecordField.of {Record Value : Type} (name : String) (value? : Json → Option Value)
    (put : Value → Record → Record) : RecordField Record :=
  ⟨name, fun document record => (value? document).map fun value => put value record⟩

/-- Take over the members of an object. A field may be given once; members that are no fields are
passed over. -/
def setMembers {Record : Type} (fields : List (RecordField Record)) (seen : List String) :
    (members : List (Quoted × Json)) → Record → Option Record
  | [], record => some record
  | (key, document) :: rest, record =>
      match key.text? with
      | none => none
      | some name =>
          match fields.find? fun field => field.name == name with
          | none => setMembers fields seen rest record
          | some field =>
              if seen.contains name then none
              else (field.set document record).bind (setMembers fields (name :: seen) rest)

/-- Take over the items of an array, in the order of the fields. -/
def setItems {Record : Type} : List (RecordField Record) → (items : List Json) → Record → Option Record
  | _, [], record => some record
  | [], _ :: _, _ => none
  | field :: fields, item :: items, record =>
      (field.set item record).bind (setItems fields items)

/-- A record, as an object or as an array of its fields; fields that are not given keep the
values they have in `initial`. -/
def record? {Record : Type} (fields : List (RecordField Record)) (initial : Record) :
    Json → Option Record
  | .object members => setMembers fields [] members initial
  | .array items => setItems fields items initial
  | _ => none

end CreatureNaming.Json
