import CredentialSync.Store.Database
import CredentialSync.Store.File
import CredentialSync.Store.Location

/-!
# Connections

A `Connection` is a database that was opened: where it is, and what was found there. Opening makes
a missing file, empty at first, and looks at nothing.

* `look` looks into the database for the first time;
* `askForLog` asks for a write-ahead log and says how changes are kept then;
* `obstacle?` says why nothing can be changed;
* `untouched` and `left` say which file stays behind.
-/

namespace CredentialSync

/-- How a database keeps changes until they are complete. -/
inductive Journal where
  | inMemory
  /-- What a change replaces is kept beside the file. -/
  | rollback
  /-- Changes are kept beside the file. -/
  | writeAhead
  deriving DecidableEq, Repr

/-- The name of a journal. -/
def Journal.name : Journal → String
  | .inMemory => "memory"
  | .rollback => "delete"
  | .writeAhead => "wal"

/-- What is found where a database is to be. -/
structure Site where
  /-- What stands in the file, if there was one. -/
  content : Option FileContent := none
  /-- How long the endings may be by which other names continue the name of the file. -/
  room : Nat := 255
  deriving DecidableEq

/-- A database that was opened. -/
structure Connection where
  location : Location
  site : Site := {}
  deriving DecidableEq

namespace Connection

/-- The ending of the name of a file that stands for a lock. -/
def lockEnding : String := ".lock"

/-- The ending of the name of the file that keeps what a change replaces, which is also the longest
one. -/
def journalEnding : String := "-journal"

/-- Looks into the database. A file that is promised not to change needs no lock. Any other with a
write-ahead log is of no use to those who share no memory. -/
def look (c : Connection) : Except DatabaseFault DatabaseFile :=
  let l := c.location
  if l.locking == .byFile && !l.frozen && c.site.room < lockEnding.length then
    .error .diskFailure
  else (c.site.content.getD (.bytes [])).examine (l.locking == .shared || l.frozen)

/-- Whether nothing can be changed. -/
def readOnly (c : Connection) (file : DatabaseFile) : Bool := c.location.readOnly || file.sealed

/-- Why no files can be made beside the file, or the file cannot be written to. -/
def closed? (c : Connection) (file : DatabaseFile) : Option DatabaseFault :=
  if c.readOnly file then some .readOnly
  else if c.site.room < journalEnding.length then some .noCompanion
  else none

/-- Asks for a write-ahead log. The answer is how changes are kept from now on. -/
def askForLog (c : Connection) : Except DatabaseFault Journal :=
  c.look.bind fun file =>
    match c.location.place with
    | .memory => .ok .inMemory
    | .temporary => .ok .rollback
    | .file _ =>
      if c.location.frozen || c.location.locking != .shared then .ok .rollback
      else if file.writeAhead then .ok .writeAhead
      else
        match c.closed? file with
        | some fault => .error fault
        | none => .ok .writeAhead

/-- Why the first change fails, if it does. -/
def obstacle? (c : Connection) (file : DatabaseFile) : Option DatabaseFault :=
  match c.closed? file with
  | some fault => some fault
  | none => if file.spoiled then some .damaged else none

/-- The file that stays behind if nothing is changed: one that was missing is there now. -/
def untouched (c : Connection) : Option (List UInt8 × FileContent) :=
  match c.location.place, c.site.content with
  | .file path, none => some (path, .bytes [])
  | _, _ => none

/-- The file that stays behind with some tables. -/
def left (c : Connection) (tables : Tables) (writeAhead : Bool) :
    Option (List UInt8 × FileContent) :=
  match c.location.place with
  | .file path =>
    if c.location.readOnly then c.untouched else some (path, .database tables writeAhead)
  | _ => none

end Connection

end CredentialSync
