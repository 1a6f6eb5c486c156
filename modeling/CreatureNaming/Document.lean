import CreatureNaming.Disk.Basic

/-! The kinds of documents that are loaded, and why one cannot be. -/

set_option autoImplicit false

namespace CreatureNaming

inductive DocumentKind where
  | settings
  | collection
  | replacements
  deriving DecidableEq, Repr

namespace DocumentKind

def name : DocumentKind → String
  | settings => "config"
  | collection => "collection"
  | replacements => "replacements"

/-- The format that a document is written in. -/
def format : DocumentKind → String
  | settings => "TOML"
  | collection => "JSON"
  | replacements => "JSON"

end DocumentKind

inductive LoadError where
  /-- The file cannot be read, or not be written. -/
  | disk (kind : DocumentKind) (fault : Disk.Fault)
  | malformed (kind : DocumentKind)
  /-- Settings consider a stat that there is not. -/
  | unknownStat (code : String)
  /-- A table that came from no file cannot be loaded again. -/
  | noFile
  deriving DecidableEq, Repr

def LoadError.message : LoadError → String
  | disk kind fault => "Failed to read " ++ kind.name ++ " file: " ++ fault.message
  | malformed kind => "Failed to parse " ++ kind.name ++ " " ++ kind.format ++ ":"
  | unknownStat code => "Unknown stat code '" ++ code ++ "' in considered_stats"
  | noFile => "No replacements file to reload"

end CreatureNaming
