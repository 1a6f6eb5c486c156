import CreatureNaming.Document
import CreatureNaming.Settings
import CreatureNaming.Toml.Reader

/-! Reading settings from the text of their document. -/

set_option autoImplicit false

namespace CreatureNaming.Settings

/-- Settings whose considered stats are still codes. -/
structure Draft where
  settings : Settings := {}
  codes : Option (List String) := none
  deriving DecidableEq, Repr

def limit? (value : Int) : Option UInt32 :=
  if 0 ≤ value && value < UInt32.size then some (.ofNat value.toNat) else none

/-- Take over an entry; none when settings have no such key or its value is of another kind. -/
def Draft.set? (draft : Draft) : String × Toml.Value → Option Draft
  | ("unique_search_limit", .integer value) =>
      (limit? value).map fun limit => { draft with settings.uniqueLimit := limit }
  | ("preview_search_limit", .integer value) =>
      (limit? value).map fun limit => { draft with settings.previewLimit := limit }
  | ("preview_placeholder", .text placeholder) =>
      some { draft with settings.placeholder := placeholder }
  | ("max_name_length", .integer value) =>
      if 0 ≤ value then some { draft with settings.maxNameLength := value.toNat } else none
  | ("considered_stats", .texts codes) => some { draft with codes }
  | ("replacements_file", .text file) => some { draft with settings.replacementsFile := some file }
  | _ => none

/-- Find the considered stats. -/
def Draft.finish (draft : Draft) : Except LoadError Settings :=
  match draft.codes with
  | none => .ok draft.settings
  | some codes => do
      let consideredStats ← codes.mapM fun code =>
        match Stat.ofCode? code with
        | some stat => .ok stat
        | none => .error (.unknownStat code)
      return { draft.settings with consideredStats }

/-- Read settings; what the text does not set keeps its default. -/
def read (text : String) : Except LoadError Settings :=
  match (Toml.parse? text).bind fun document => document.foldlM Draft.set? {} with
  | some draft => draft.finish
  | none => .error (.malformed .settings)

end CreatureNaming.Settings
