import CreatureNaming.Command.Run
import Std.Time.Zoned

/-! The program: it reads the clock and its arguments, works on the files of the system, and
prints. -/

set_option autoImplicit false

namespace CreatureNaming

/-- The number of an error; some operations of the system give it with its sign changed. -/
def errorNumber (code : UInt32) : UInt32 := if code < 0x80000000 then code else 0 - code

/-- Why an operation on a file of the system failed. -/
def faultOf : IO.Error → Disk.Fault
  | .noFileOrDirectory _ _ _ => .missing
  | .alreadyExists _ _ _ => .alreadyExists
  | .inappropriateType _ code _ =>
      if errorNumber code = 21 then .isDirectory else .notDirectory
  | .invalidArgument _ code details =>
      if errorNumber code = 36 then .nameTooLong
      else .other s!"{details} (os error {errorNumber code})"
  | .permissionDenied _ _ _ => .other "Permission denied (os error 13)"
  | error => .other error.toString

/-- Do something with the file or directory of a path, if the system can take the path. -/
def onPath {Result : Type} (path : String) (action : IO Result) :
    IO (Except Disk.Fault Result) := do
  if path.toList.contains '\x00' then return .error .nulInName
  try return .ok (← action)
  catch error => return .error (faultOf error)

instance : Disk IO where
  read path := do
    match ← onPath path (IO.FS.readBinFile path) with
    | .ok bytes => return (String.fromUTF8? bytes).elim (.error .notText) .ok
    | .error fault => return .error fault
  write path text := onPath path (IO.FS.writeFile path text)
  makeDirectory path := onPath path (IO.FS.createDir path)
  has path := return (← onPath path (IO.FS.realPath path)).toBool
  hasDirectory path := return (← onPath path (IO.FS.realPath (path ++ "/."))).toBool

/-- The time, and how far local time is ahead of universal time. -/
def currentMoment : IO Moment := do
  let now ← Std.Time.Timestamp.now
  let zone := (← Std.Time.Database.defaultGetLocalZoneRules).timezoneAt now
  return ⟨⟨now.val.second.val, now.val.nano.val.toNat⟩, zone.offset.second.val⟩

/-- Six digits drawn from a seed for a creature and a place of a pattern. -/
def drawDigits (seed : UInt64) (id : CreatureId) (place : Nat) : String :=
  let drawn := mixHash (mixHash seed id) (.ofNat place)
  .ofList (Number.zeroPad 6 (Number.decimalDigits (drawn % 1000000).toNat))

end CreatureNaming

def main (arguments : List String) : IO UInt32 := do
  let now ← CreatureNaming.currentMoment
  let seed ← IO.rand 0 (UInt32.size - 1)
  let transcript ←
    CreatureNaming.runArguments now (CreatureNaming.drawDigits (.ofNat seed)) arguments
  (← IO.getStdout).putStr transcript.output
  (← IO.getStderr).putStr transcript.errors
  return transcript.exitCode.toUInt32
