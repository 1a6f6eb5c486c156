import CreatureNaming.Disk.Basic
import CreatureNaming.Table

/-! A disk in memory. -/

set_option autoImplicit false

namespace CreatureNaming

/-- The names on the way from the root to a file or directory. -/
abbrev Place : Type := List String

inductive MemoryDisk.Entry where
  | directory
  | file (bytes : ByteArray)

/-- The files and directories on a disk, and the directory that relative paths start in. The root
has no entry. -/
structure MemoryDisk where
  entries : Table Place MemoryDisk.Entry := []
  workplace : Place := []

namespace MemoryDisk

def entry? (disk : MemoryDisk) (place : Place) : Option Entry :=
  if place.isEmpty then some .directory else Table.get? place disk.entries

def isDirectory (disk : MemoryDisk) (place : Place) : Bool :=
  match disk.entry? place with
  | some .directory => true
  | _ => false

def put (place : Place) (entry : Entry) (disk : MemoryDisk) : MemoryDisk :=
  { disk with entries := Table.put place entry disk.entries }

/-- The most bytes that a name may have. -/
def maxNameLength : Nat := 255

/-- The most bytes that a path may have. -/
def maxPathLength : Nat := 4095

/-- Follow names from a directory. All that is passed through must be a directory; the last name
may be new. -/
def follow (disk : MemoryDisk) (place : Place) : (names : List String) →
    Except Disk.Fault Place
  | [] => .ok place
  | name :: rest =>
      if name == "." then disk.follow place rest
      else if name == ".." then disk.follow place.dropLast rest
      else if maxNameLength < name.utf8ByteSize then .error .nameTooLong
      else
        let inner := place ++ [name]
        if rest.isEmpty then .ok inner
        else
          match disk.entry? inner with
          | some .directory => disk.follow inner rest
          | some (.file _) => .error .notDirectory
          | none => .error .missing

/-- The place of a path whose names are changed before they are followed. -/
def locateBy (change : List String → List String) (disk : MemoryDisk) (path : String) :
    Except Disk.Fault Place :=
  if path.toList.contains '\x00' then .error .nulInName
  else if maxPathLength < path.utf8ByteSize then .error .nameTooLong
  else if path.isEmpty then .error .missing
  else
    disk.follow (if Path.isAbsolute path then [] else disk.workplace)
      (change ((Path.names path.toList).filter fun name => !name.isEmpty))

/-- The place of a path. -/
def locate (disk : MemoryDisk) (path : String) : Except Disk.Fault Place :=
  disk.locateBy id path

/-- The place of the directory that a path lies in; it must be there. -/
def locateOuter (disk : MemoryDisk) (path : String) : Except Disk.Fault Place :=
  disk.locateBy (fun names => names.dropLast ++ ["."]) path

/-- A path that ends in a slash means a directory. -/
def meansDirectory (path : String) : Bool := path.toList.getLast? == some '/'

def bytes (disk : MemoryDisk) (path : String) : Except Disk.Fault ByteArray := do
  match disk.entry? (← disk.locate path) with
  | some (.file bytes) => if meansDirectory path then throw .notDirectory else return bytes
  | some .directory => throw .isDirectory
  | none => throw .missing

def read (disk : MemoryDisk) (path : String) : Except Disk.Fault String := do
  match String.fromUTF8? (← disk.bytes path) with
  | some text => return text
  | none => throw .notText

def writeBytes (disk : MemoryDisk) (path : String) (bytes : ByteArray) :
    Except Disk.Fault MemoryDisk := do
  if meansDirectory path then
    let _ ← disk.locateOuter path
    throw .isDirectory
  let place ← disk.locate path
  match disk.entry? place with
  | some .directory => throw .isDirectory
  | _ => return disk.put place (.file bytes)

def makeDirectory (disk : MemoryDisk) (path : String) : Except Disk.Fault MemoryDisk := do
  let place ← disk.locate path
  match disk.entry? place with
  | some _ => throw .alreadyExists
  | none => return disk.put place .directory

/-- Delete a file, or a directory and all that lies in it. -/
def delete (disk : MemoryDisk) (path : String) : Except Disk.Fault MemoryDisk := do
  let place ← disk.locate path
  match disk.entry? place with
  | some _ =>
      return { disk with entries := disk.entries.filter fun (other, _) => !place.isPrefixOf other }
  | none => throw .missing

def has (disk : MemoryDisk) (path : String) : Bool :=
  match disk.locate path with
  | .ok place =>
      match disk.entry? place with
      | some .directory => true
      | some (.file _) => !meansDirectory path
      | none => false
  | .error _ => false

def hasDirectory (disk : MemoryDisk) (path : String) : Bool :=
  match disk.locate path with
  | .ok place => disk.isDirectory place
  | .error _ => false

/-- Take over a changed disk. -/
def commit (changed : MemoryDisk → Except Disk.Fault MemoryDisk) :
    StateM MemoryDisk (Except Disk.Fault Unit) := do
  match changed (← get) with
  | .ok disk => set disk; return .ok ()
  | .error fault => return .error fault

instance : Disk (StateM MemoryDisk) where
  read path := return (← get).read path
  write path text := commit fun disk => disk.writeBytes path text.toUTF8
  makeDirectory path := commit fun disk => disk.makeDirectory path
  has path := return (← get).has path
  hasDirectory path := return (← get).hasDirectory path

end MemoryDisk

end CreatureNaming
