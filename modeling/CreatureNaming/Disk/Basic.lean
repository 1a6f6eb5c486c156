import CreatureNaming.Disk.Path

/-! Disks that hold files, and what can go wrong with them. -/

set_option autoImplicit false

namespace CreatureNaming

/-- Why an operation on a file or directory failed. -/
inductive Disk.Fault where
  | missing
  | notDirectory
  | isDirectory
  | alreadyExists
  | nameTooLong
  /-- A path has a character that ends names. -/
  | nulInName
  /-- The bytes of a file are not the encoding of a text. -/
  | notText
  | other (reason : String)
  deriving DecidableEq, Repr

def Disk.Fault.message : Disk.Fault → String
  | missing => "No such file or directory (os error 2)"
  | notDirectory => "Not a directory (os error 20)"
  | isDirectory => "Is a directory (os error 21)"
  | alreadyExists => "File exists (os error 17)"
  | nameTooLong => "File name too long (os error 36)"
  | nulInName => "file name contained an unexpected NUL byte"
  | notText => "stream did not contain valid UTF-8"
  | other reason => reason

/-- What a monad offers in which files are read and written. -/
class Disk (m : Type → Type) where
  read (path : String) : m (Except Disk.Fault String)
  /-- Replace the text of a file, which is made if there is none. -/
  write (path text : String) : m (Except Disk.Fault Unit)
  makeDirectory (path : String) : m (Except Disk.Fault Unit)
  /-- Whether there is a file or a directory. -/
  has (path : String) : m Bool
  hasDirectory (path : String) : m Bool

namespace Disk

variable {m : Type → Type} [Monad m] [Disk m]

/-- Make a directory; that it is there already is no fault. -/
def settle (path : String) : m (Except Fault Unit) := do
  match ← makeDirectory path with
  | .ok () => return .ok ()
  | .error fault => return if ← hasDirectory path then .ok () else .error fault

/-- Make a directory that lies in `outer`, innermost first, and of these the ones that are
missing. -/
def makeDirectoriesIn (path : String) (outer : List String) : m (Except Fault Unit) := do
  if path.isEmpty then return .ok ()
  match ← makeDirectory path, outer with
  | .ok (), _ => return .ok ()
  | .error .missing, parent :: outer =>
      match ← makeDirectoriesIn parent outer with
      | .ok () => settle path
      | .error fault => return .error fault
  | .error fault, _ => return if ← hasDirectory path then .ok () else .error fault
termination_by outer.length

/-- Make a directory and those it lies in. -/
def makeDirectories (path : String) : m (Except Fault Unit) :=
  makeDirectoriesIn path (Path.directories path)

end Disk

end CreatureNaming
