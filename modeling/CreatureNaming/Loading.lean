import CreatureNaming.Collection
import CreatureNaming.Settings.Document

/-! Loading documents from a disk, and saving them. -/

set_option autoImplicit false

namespace CreatureNaming

variable {m : Type → Type} [Monad m] [Disk m]

/-- What a disk operation gave, for a document of a kind. -/
def DocumentKind.lift {Result : Type} (kind : DocumentKind)
    (operation : m (Except Disk.Fault Result)) : ExceptT LoadError m Result := do
  match ← operation with
  | .ok result => return result
  | .error fault => throw (.disk kind fault)

/-- Load a document that `read?` reads from its text. -/
def DocumentKind.load {Document : Type} (kind : DocumentKind) (read? : String → Option Document)
    (path : String) : ExceptT LoadError m Document := do
  match read? (← kind.lift (Disk.read path)) with
  | some document => return document
  | none => throw (.malformed kind)

/-- Load settings. A file of replacements that they name is sought beside their own file. -/
def Settings.load (path : String) : ExceptT LoadError m Settings := do
  let text ← DocumentKind.settings.lift (Disk.read path)
  let settings ← ExceptT.mk (return Settings.read text)
  match settings.replacementsFile, Path.directory? path with
  | some file, some directory =>
      return { settings with replacementsFile := some (Path.join directory file) }
  | _, _ => return settings

def Collection.load (path : String) : ExceptT LoadError m Collection :=
  DocumentKind.collection.load Collection.read? path

def Collection.save (collection : Collection) (path : String) : ExceptT LoadError m Unit :=
  DocumentKind.collection.lift (Disk.write path collection.text)

def Replacements.load (path : String) : ExceptT LoadError m Replacements :=
  DocumentKind.replacements.load Replacements.read? path

/-- Write an example of a table where there is no file yet, and tell whether it was written. -/
def Replacements.seed (path : String) : ExceptT LoadError m Bool := do
  if ← (Disk.has path : m Bool) then return false
  if let some directory := Path.directory? path then
    DocumentKind.replacements.lift (Disk.makeDirectories directory)
  DocumentKind.replacements.lift (Disk.write path Replacements.exampleText)
  return true

/-- A table of replacements, and the file it came from if it came from one. -/
structure LoadedReplacements where
  file : Option String := none
  table : Replacements := []
  deriving DecidableEq, Repr

namespace LoadedReplacements

def load (path : String) : ExceptT LoadError m LoadedReplacements := do
  return ⟨some path, ← Replacements.load path⟩

/-- Load a table from its file again. -/
def reload (loaded : LoadedReplacements) : ExceptT LoadError m LoadedReplacements := do
  match loaded.file with
  | some path => load path
  | none => throw .noFile

end LoadedReplacements

end CreatureNaming
