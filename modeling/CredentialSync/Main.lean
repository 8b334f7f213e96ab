import CredentialSync.CommandLine.Process
import CredentialSync.Store.Image

/-!
# The program

The outer layer of the command line: it fetches what a process sees of its machine, lets
`CommandLine.run` do the work, keeps the database, and prints what the report says.
-/

namespace CredentialSync.CommandLine

/-- The variables of the environment that matter to the program. -/
def readEnvironment : IO Environment := do
  let names := "RUST_LOG" :: Variable.all.map (·.name)
  let pairs ← names.mapM fun name => return (name, ← IO.getEnv name)
  return pairs.filterMap fun (name, value) => value.map fun v => (name, Text.Utf8.encode v)

/-- The bytes of a file, or why there are none. -/
def readBytes (path : String) : IO (Except FileFault (List UInt8)) := do
  try
    return .ok (← IO.FS.readBinFile path).toList
  catch
    | .noFileOrDirectory .. => return .error .missing
    | .inappropriateType .. => return .error .isDirectory
    | _ => return .error .missing

/-- Whether the file of a path is missing. -/
def isMissing (path : String) : IO Bool := do
  match ← readBytes path with
  | .error .missing => return true
  | _ => return false

/-- What is found where a database is to be; a missing file is made if it may be. -/
def findDatabase (l : Location) : IO (Except DatabaseFault Site) := do
  match l.place with
  | .memory | .temporary => return .ok {}
  | .file path =>
    let name := Text.Utf8.lenient path
    if let some pattern := l.pattern then
      if ← isMissing (Text.Utf8.lenient pattern) then return .error .diskFailure
    match ← readBytes name with
    | .ok bytes => return .ok { content := some (.ofImage bytes) }
    | .error _ =>
      if l.access != .creating then return .error (.cannotOpen l.given)
      try
        IO.FS.writeBinFile name ByteArray.empty
        return .ok {}
      catch _ => return .error (.cannotOpen l.given)

/-- Fetches what a process sees: its environment, its configuration file and its database. -/
def fetch (args : List String) : IO Surroundings := do
  let environment ← readEnvironment
  let home ← IO.getEnv "HOME"
  let bare : Surroundings :=
    { environment, home
      file := fun _ => .error .missing
      database := fun l => .error (.cannotOpen l.given) }
  match readRequest args with
  | .run i =>
    let content ← match i.config with
      | some path => readBytes (bare.expand path)
      | none => pure (.error .missing)
    let s := { bare with file := fun _ => content }
    match i.command, configuration s i with
    | some _, .ok c =>
      match Location.read c.store.path with
      | .error _ => return s
      | .ok location =>
        let site ← findDatabase location
        return { s with database := fun _ => site }
    | _, _ => return s
  | _ => return bare

/-- Prints a report and keeps the file that it leaves. -/
def deliver (r : Report) : IO UInt32 := do
  if let some (path, content) := r.left then
    IO.FS.writeBinFile (Text.Utf8.lenient path) (ByteArray.mk content.image.toArray)
  for line in r.logs do
    IO.eprintln line
  IO.print r.output
  IO.eprint r.complaint
  return UInt32.ofNat r.code

end CredentialSync.CommandLine

/-- Runs the program. -/
def main (args : List String) : IO UInt32 := do
  let s ← CredentialSync.CommandLine.fetch args
  CredentialSync.CommandLine.deliver (CredentialSync.CommandLine.run s args)
