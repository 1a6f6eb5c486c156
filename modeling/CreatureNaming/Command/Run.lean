import CreatureNaming.Command.Help
import CreatureNaming.Lint
import CreatureNaming.Loading
import CreatureNaming.Workspace

/-! Carrying out commands on a disk. -/

set_option autoImplicit false

namespace CreatureNaming

/-- What is not quite right with the name of a creature. -/
def Outcome.warnings (id : CreatureId) (outcome : Outcome) : List String :=
  let warning (text : String) : String :=
    "warning: " ++ Number.integerText id.toNat ++ ": " ++ text
  (if outcome.exhausted then [warning s!"no unique number found for '{outcome.name}'"] else []) ++
  (if outcome.duplicate then [warning s!"'{outcome.name}' is already in use"] else []) ++
  (if outcome.tooLong then [warning s!"'{outcome.name}' is longer than the name limit"] else [])

/-- Put blanks behind a text until it has `width` characters. -/
def filled (width : Nat) (text : String) : String := text.pushn ' ' (width - text.length)

/-- A line of the token dictionary in columns. -/
def TokenEntry.line (entry : TokenEntry) : String :=
  filled 20 entry.name ++ " " ++ filled 16 entry.value ++ " " ++ entry.description

def TokenEntry.toJson (entry : TokenEntry) : Json :=
  .record [("name", .ofText entry.name), ("value", .ofText entry.value),
    ("description", .ofText entry.description)]

def Function.line (function : Function) : String :=
  filled 14 function.name ++ " " ++ function.usage

namespace Command

variable {m : Type → Type} [Monad m] [Disk m]

/-- Load a document, or tell what went wrong. -/
def loadOrTell {Document : Type} (kind : DocumentKind) (path : String)
    (loaded : ExceptT LoadError m Document) : ExceptT String m Document :=
  loaded.adapt fun error => "Error loading " ++ kind.name ++ " '" ++ path ++ "': " ++ error.message

/-- Load the table of replacements: the one that is asked for, or else the one of the settings. -/
def loadReplacements (file : Option String) (settings : Settings) :
    ExceptT String m Replacements :=
  match file.or settings.replacementsFile with
  | some path => loadOrTell .replacements path (Replacements.load path)
  | none => return []

/-- Load what is needed for naming. -/
def loadWorkspace (now : Moment) (random : CreatureId → Nat → String) (settings : Settings)
    (collection : String) (replacements : Option String) : ExceptT String m Workspace := do
  return {
    collection := ← loadOrTell .collection collection (Collection.load collection)
    replacements := ← loadReplacements replacements settings
    settings, now, random }

def findCreature (workspace : Workspace) (id : CreatureId) : ExceptT String m Creature :=
  match workspace.collection.find? id with
  | some creature => return creature
  | none => throw ("Error: no creature with id " ++ Number.integerText id.toNat)

/-- The lines that tell of new names, and what is not right with them. -/
def tellRenames (renames : List Rename) : Transcript :=
  renames.foldl
    (fun transcript rename =>
      (rename.outcome.warnings rename.id).foldl (fun transcript line => transcript.complain line)
        (transcript.printLine (Number.integerText rename.id.toNat ++ "\t" ++ rename.oldName ++
          "\t" ++ rename.outcome.name)))
    {}

/-- Carry out a command; the exception is the reason why it cannot be done. -/
def perform (now : Moment) (random : CreatureId → Nat → String) (settings : Settings) :
    Command → ExceptT String m Transcript
  | render collection id pattern preview replacements => do
      let workspace ← loadWorkspace now random settings collection replacements
      let creature ← findCreature workspace id
      let mode : Mode := if preview then .preview else .commit
      let outcome := (workspace.context mode creature).generate (Pattern.parse pattern)
      return (outcome.warnings id).foldl (fun transcript line => transcript.complain line)
        (Transcript.printLine outcome.name {})
  | batch collection pattern species replacements output => do
      let workspace ← loadWorkspace now random settings collection replacements
      let renames := workspace.renames (Pattern.parse pattern) species
      let transcript := tellRenames renames
      match output with
      | none => return transcript
      | some path =>
          let saved ← ((workspace.collection.applyRenames renames).save path : ExceptT _ m _).run
          match saved with
          | .ok () => return transcript
          | .error error =>
              return transcript.fail s!"Error writing collection '{path}': {error.message}"
  | tokens collection id asJson => do
      let workspace ← loadWorkspace now random settings collection none
      let creature ← findCreature workspace id
      let entries := tokenDictionary (workspace.context .preview creature)
      if asJson then
        return Transcript.printLine (Json.array (entries.map TokenEntry.toJson)).pretty {}
      else
        return entries.foldl (fun transcript entry => transcript.printLine entry.line) {}
  | functions =>
      return Function.all.foldl (fun transcript function => transcript.printLine function.line) {}
  | check pattern =>
      let findings := Pattern.findings pattern
      return {
        errors := String.join <|
          findings.map fun finding => (finding.report "pattern" pattern).print true
        exitCode := if findings.isEmpty then 0 else 1 }
  | seedReplacements file => do
      let written ← (Replacements.seed file : ExceptT LoadError m Bool).adapt fun error =>
        s!"Error writing '{file}': {error.message}"
      return Transcript.printLine
        (if written then "Wrote example replacements to " ++ file else file ++ " already exists") {}

end Command

variable {m : Type → Type} [Monad m] [Disk m]

/-- Load the settings and carry out the command. -/
def Invocation.run (now : Moment) (random : CreatureId → Nat → String) (invocation : Invocation) :
    m Transcript := do
  let performed ← ExceptT.run do
    let settings ←
      match invocation.settings with
      | some path => Command.loadOrTell .settings path (Settings.load path)
      | none => pure {}
    invocation.command.perform now random settings
  match performed with
  | .ok transcript => return transcript
  | .error reason => return Transcript.fail reason {}

/-- What the program does with its arguments. -/
def runArguments (now : Moment) (random : CreatureId → Nat → String) (arguments : List String) :
    m Transcript :=
  match Arguments.read arguments with
  | .ok invocation => invocation.run now random
  | .error refusal => return refusal.transcript

end CreatureNaming
