import CredentialSync.Config.Environment
import CredentialSync.Store.Connection

/-!
# Surroundings of a process

What a process sees of the machine it runs on: its environment, the user's home, and files. A
`Directory` is a working directory among the directories and files of a machine; it gives a process its
files and takes back the file that the process leaves.

* `resolve` walks along a path from directory to directory, and every directory on the way has to
  be there;
* `shorten` takes a database path apart by its text: what a `..` takes back need not be there.

There are no links, and whatever is there may be read and written.
-/

namespace CredentialSync.CommandLine

/-- What a process sees of its machine. -/
structure Surroundings where
  environment : Environment := []
  home : Option String := none
  /-- The content of a file. -/
  file : String → Except FileFault (List UInt8)
  /-- What is found where a database is to be; a missing file is made if it may be. -/
  database : Location → Except DatabaseFault Site

namespace Surroundings

/-- A path with the home directory in place of a tilde. -/
def expand (s : Surroundings) (path : String) : String :=
  match path.toList with
  | ['~'] => s.home.getD path
  | '~' :: '/' :: rest =>
    match s.home with
    | some home => home ++ String.ofList ('/' :: rest)
    | none => path
  | _ => path

end Surroundings

/-! ## 1. Files -/

/-- The place of a file or of a directory: the names on the way to it, from the root on. -/
abbrev FilePlace := List (List UInt8)

/-- The directories and files of a machine, with a working directory. -/
structure Directory where
  /-- The place of the working directory. -/
  working : FilePlace := []
  /-- The places of other directories. -/
  folders : List FilePlace := []
  files : List (FilePlace × FileContent) := []
  deriving DecidableEq

namespace Directory

/-- A working directory with some files in it. -/
def ofFiles (working : FilePlace) (files : List (String × List UInt8)) : Directory where
  working := working
  files := files.map fun (name, bs) => (working ++ [Text.Utf8.encode name], .bytes bs)

/-- Whether there is a directory at a place. What stands above a directory is one, too. -/
def isDirectory (d : Directory) (place : FilePlace) : Bool :=
  (d.working :: d.folders).any place.isPrefixOf

/-- Whether there is a file at a place. -/
def isFile (d : Directory) (place : FilePlace) : Bool :=
  !d.isDirectory place && (d.files.lookup place).isSome

/-- The parts of a path between its slashes. -/
def parts : List UInt8 → List (List UInt8)
  | [] => [[]]
  | b :: rest =>
    if b == 0x2F then [] :: parts rest
    else
      match parts rest with
      | [] => [[b]]
      | part :: more => (b :: part) :: more

/-- Whether a path begins at the root. -/
def isAbsolute (path : List UInt8) : Bool := path.head? == some 0x2F

/-- The part that stands for the directory itself. -/
def here : List UInt8 := [0x2E]

/-- The part that stands for the directory above. Above the root is the root. -/
def above : List UInt8 := [0x2E, 0x2E]

/-- The greatest length of a name. -/
def longestName : Nat := 255

/-! ## 2. Walking -/

/-- Where a path leads. -/
inductive Goal where
  | directory
  | file (place : FilePlace)
  deriving DecidableEq

/-- Walks along the parts of a path from a directory; `creating` says that a missing file would be
made. -/
def walk (d : Directory) (creating : Bool) (place : FilePlace) :
    List (List UInt8) → Except FileFault Goal
  | [] => .ok .directory
  | part :: rest =>
    if part.isEmpty || part == here then d.walk creating place rest
    else if part == above then d.walk creating place.dropLast rest
    else if creating && !rest.isEmpty && rest.all (·.isEmpty) then .error .isDirectory
    else if part.length > longestName then .error .nameTooLong
    else if d.isDirectory (place ++ [part]) then d.walk creating (place ++ [part]) rest
    else if rest.isEmpty then .ok (.file (place ++ [part]))
    else if d.isFile (place ++ [part]) then .error .notDirectory
    else .error .missing

/-- Where a path leads, whether or not there is a file. -/
def goal (d : Directory) (creating : Bool) (path : List UInt8) : Except FileFault Goal :=
  if path.contains 0 then .error .unusableName
  else if path.isEmpty then .error .missing
  else if path.length ≥ 4096 then .error .nameTooLong
  else d.walk creating (if isAbsolute path then [] else d.working) (parts path)

/-- The place of the file that a path leads to, whether or not there is one. -/
def resolve (d : Directory) (creating : Bool) (path : List UInt8) : Except FileFault FilePlace :=
  (d.goal creating path).bind fun
    | .directory => .error .isDirectory
    | .file place => .ok place

/-- Whether there is something at the end of a path. -/
def reaches (d : Directory) (path : List UInt8) : Bool :=
  match d.goal false path with
  | .ok .directory => true
  | .ok (.file place) => d.isFile place
  | .error _ => false

/-- The content of the file that a path leads to. -/
def file (d : Directory) (path : String) : Except FileFault (List UInt8) :=
  (d.resolve false (Text.Utf8.encode path)).bind fun place =>
    match d.files.lookup place with
    | none => .error .missing
    | some (.bytes bs) => .ok bs
    | some (.database ..) => .error .notText

/-! ## 3. Databases -/

/-- The length of the path from the root to a place: all names, and a slash before each. -/
def pathLength (place : FilePlace) : Nat := place.flatten.length + place.length

/-- The greatest length of the path of a database, from the root on. -/
def longestPath : Nat := 511

/-- Whether one cannot look at a name below a place: it is too long or stands below a file. Below a
place where there is nothing, there is nothing to look at. -/
def refuses (d : Directory) (place : FilePlace) (name : List UInt8) : Bool :=
  d.isFile place || (d.isDirectory place && name.length > longestName)

/-- Shortens a database path by its text, from a place on. -/
def shorten (d : Directory) (place : FilePlace) : List (List UInt8) → Option FilePlace
  | [] => some place
  | part :: rest =>
    if part.isEmpty || part == here then d.shorten place rest
    else if part == above then d.shorten place.dropLast rest
    else if pathLength (place ++ [part]) > longestPath || d.refuses place part then none
    else d.shorten (place ++ [part]) rest

/-- The parts of a path from the root on. -/
def fromRoot (d : Directory) (path : List UInt8) : List (List UInt8) :=
  if isAbsolute path then parts path else d.working ++ parts path

/-- The place that a database path leads to. -/
def locate (d : Directory) (path : List UInt8) : Option FilePlace := d.shorten [] (d.fromRoot path)

/-- What is found where a database is to be. Only for reading even a directory can be opened, but
nothing can be read from it; the root has no name that could be opened. -/
def database (d : Directory) (l : Location) : Except DatabaseFault Site :=
  match l.place with
  | .file path =>
    match d.locate path with
    | none | some [] => .error (.cannotOpen l.given)
    | some place =>
      if l.pattern.any fun path => !d.reaches path then .error .diskFailure
      else if d.isDirectory place then
        .error (if l.access == .reading then .diskFailure else .cannotOpen l.given)
      else
        let content := d.files.lookup place
        if !d.isDirectory place.dropLast || content.isNone && l.access != .creating then
          .error (.cannotOpen l.given)
        else .ok { content, room := longestName - (place.getLastD []).length }
  | _ => .ok {}

/-- Puts a file in place of the one that a database path leads to. -/
def put (d : Directory) (path : List UInt8) (content : FileContent) : Directory :=
  match d.locate path with
  | none => d
  | some place => { d with files := (place, content) :: d.files.filter (·.1 != place) }

/-! ## 4. Processes -/

/-- What a process sees that runs in a directory. -/
def surroundings (d : Directory) (environment : Environment) (home : Option String) :
    Surroundings :=
  { environment, home, file := d.file, database := d.database }

end Directory

end CredentialSync.CommandLine
