import Std.Time.DateTime.Timestamp
import TypedClient.Calendar
import TypedClient.Command.Run

/-!
# The program

The command line, with the files of the disk, the standard streams and the clock of the machine. There is
no transport for URLs: every attempt to fetch one is refused.
-/

namespace TypedClient

open Files (Fault Path)

/-- The fault that an error of the system is. -/
def Files.Fault.ofError : IO.Error → Fault
  | .noFileOrDirectory .. => .notFound
  | .alreadyExists .. => .occupied
  | error => .other (toString error)

/-- Does something and gives its result or the fault at which it failed. -/
def attempt {α : Type} (action : IO α) : IO (Except Fault α) := do
  try return .ok (← action)
  catch error => return .error (.ofError error)

/-- The text in a file of the disk. -/
def readDisk (path : Path) : IO (Except Fault String) := do
  match ← attempt (IO.FS.readBinFile path.text) with
  | .error fault => return .error fault
  | .ok content =>
    match String.fromUTF8? content with
    | some text => return .ok text
    | none => return .error .notText

/-- Whether a path names a directory of the disk. -/
def isDiskDirectory (path : Path) : IO Bool := do
  match ← attempt (IO.FS.realPath path.text) with
  | .ok file => file.isDir
  | .error _ => return false

/-- Makes a directory, and those over it first if they are missing: at most so many of them. -/
def makeDirectories (path : Path) : Nat → IO (Except Fault Unit)
  | 0 => return .ok ()
  | depth + 1 => do
    if path.isEmpty then return .ok ()
    match ← attempt (IO.FS.createDir path.text) with
    | .ok () => return .ok ()
    | .error .notFound =>
      match ← makeDirectories path.parent depth with
      | .error fault => return .error fault
      | .ok () => settle (← attempt (IO.FS.createDir path.text))
    | .error fault => settle (.error fault)
where
  /-- Nothing is amiss if the directory is there after all. -/
  settle : Except Fault Unit → IO (Except Fault Unit)
    | .ok () => return .ok ()
    | .error fault => do
      if ← isDiskDirectory path then return .ok () else return .error fault

/-- Makes a directory under a name that no other has, in as many attempts as are allowed. -/
def makeStaging (path : Path) : Nat → IO (Except Fault Path)
  | 0 => return .error .occupied
  | attempts + 1 => do
    let staging := path.child (Files.stagingName (← IO.rand 0 1000000000000))
    match ← attempt (IO.FS.createDir staging.text) with
    | .ok () => return .ok staging
    | .error .occupied => makeStaging path attempts
    | .error fault => return .error fault

/-- The time of the machine. -/
def machineTime : IO String := do
  let time ← Std.Time.Timestamp.now
  return Calendar.stamp time.toSecondsSinceUnixEpoch.val.toNat

instance : Host IO where
  hasPath path := do
    match ← attempt (IO.FS.realPath path.text) with
    | .ok _ => return true
    | .error _ => return false
  readText := readDisk
  writeText path content := attempt (IO.FS.writeFile path.text content)
  createDirectories path := makeDirectories path (path.steps.length + 1)
  createStaging path := makeStaging path 100
  rename source target := attempt (IO.FS.rename source.text target.text)
  removeFile path := attempt (IO.FS.removeFile path.text)
  removeTree path := do
    let _ ← attempt (IO.FS.removeDirAll path.text)
  out text := IO.print text
  err text := IO.eprint text
  log message := do
    if message.level.isShown then IO.eprint (message.line (← machineTime))
  now := machineTime
  fetch _ _ := return .refused
  sleep milliseconds := IO.sleep (min milliseconds (Number.twoTo 32 - 1)).toUInt32

/-- What is shown for a command line that is none. -/
def usage : String :=
  "usage: acg generate|validate|diff|inspect|init [options]\n"

end TypedClient

/-- Runs the command that the arguments ask for. -/
def main (args : List String) : IO UInt32 := do
  let code ← TypedClient.Command.run args
  if code = 2 then IO.eprint TypedClient.usage
  return code
