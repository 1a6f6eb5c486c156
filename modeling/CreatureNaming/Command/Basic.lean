import CreatureNaming.Creature

/-! What the command line can be asked to do. -/

set_option autoImplicit false

namespace CreatureNaming

inductive Command where
  /-- Name one creature. -/
  | render (collection : String) (id : CreatureId) (pattern : String) (preview : Bool)
      (replacements : Option String)
  /-- Name all creatures, or those of one species. -/
  | batch (collection pattern : String) (species replacements output : Option String)
  /-- List the tokens and their values for one creature. -/
  | tokens (collection : String) (id : CreatureId) (asJson : Bool)
  | functions
  /-- Report what is wrong with a pattern. -/
  | check (pattern : String)
  /-- Write an example of a table of replacements. -/
  | seedReplacements (file : String)
  deriving DecidableEq, Repr

/-- A command and the file of its settings. -/
structure Invocation where
  settings : Option String
  command : Command
  deriving DecidableEq, Repr

/-- What a run of the program leaves behind. -/
structure Transcript where
  output : String := ""
  errors : String := ""
  exitCode : UInt8 := 0
  deriving DecidableEq, Repr

namespace Transcript

def printLine (line : String) (transcript : Transcript) : Transcript :=
  { transcript with output := transcript.output ++ line ++ "\n" }

def complain (line : String) (transcript : Transcript) : Transcript :=
  { transcript with errors := transcript.errors ++ line ++ "\n" }

def fail (line : String) (transcript : Transcript) : Transcript :=
  { transcript.complain line with exitCode := 1 }

end Transcript

end CreatureNaming
