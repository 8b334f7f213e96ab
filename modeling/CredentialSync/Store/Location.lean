import CredentialSync.Store.Schema
import CredentialSync.Text.Percent

/-!
# Database names

A database is named by a path, or by a URI: a name that begins with `file:`. `Location.read` says
where the database of a name is kept and how it may be used.

* Behind `file:`, and perhaps an authority, comes the path, up to `?` or `#`. Parameters follow,
  `name=value` with `&` between them, up to `#`.
* Percent escapes stand for bytes; an escaped zero ends the part in which it stands.
* The path `:memory:` stands for a database in memory, an empty one for a database in a file of its
  own that is gone afterwards.
* `mode`, `cache` and `vfs` have to name something known. A `mode` may take rights away and gives
  none back.
-/

namespace CredentialSync

/-- What may be done with the file of a database. -/
inductive Access where
  | reading
  /-- Reading and writing, if there is a file. -/
  | writing
  /-- Reading and writing; a missing file is made. -/
  | creating
  /-- There is no file: the database is kept in memory. -/
  | inMemory
  deriving DecidableEq, Repr

namespace Access

/-- The order of rights. -/
def rank : Access → Nat
  | .reading => 0
  | .writing => 1
  | .creating => 2
  | .inMemory => 3

/-- The access that a `mode` names. -/
def named? (mode : String) : Option Access :=
  if mode == "ro" then some .reading
  else if mode == "rw" then some .writing
  else if mode == "rwc" then some .creating
  else if mode == "memory" then some .inMemory
  else none

/-- Whether one access may be given up for another. -/
def admits (old new : Access) : Bool := new == .inMemory || new.rank ≤ old.rank

end Access

/-- Where a database is kept. -/
inductive Place where
  | memory
  /-- A file without a name. -/
  | temporary
  | file (path : List UInt8)
  deriving DecidableEq

/-- How those who use a file keep out of each other's way. -/
inductive Locking where
  /-- They share locks and memory. -/
  | shared
  /-- A file beside it is there while someone uses it. -/
  | byFile
  | none
  deriving DecidableEq, Repr

/-- What the name of a database says. -/
structure Location where
  /-- The name. -/
  given : String
  place : Place
  access : Access := .creating
  locking : Locking := .shared
  /-- Whether the file is promised never to change. -/
  frozen : Bool := false
  /-- A file from which a new one takes its permissions. -/
  pattern : Option (List UInt8) := none
  deriving DecidableEq

namespace Location

/-! ## 1. Parts of a URI -/

/-- The bytes that a part stands for. -/
def unescape (part : List Char) : List UInt8 :=
  (Text.Percent.decode (Text.Utf8.encode (String.ofList part))).takeWhile (· != 0)

/-- What stands behind the authority, which has to be empty or this machine. -/
def afterAuthority : List Char → Except DatabaseFault (List Char)
  | '/' :: '/' :: rest =>
    let authority := String.ofList (rest.takeWhile (· != '/'))
    if authority == "" || authority == "localhost" then .ok (rest.dropWhile (· != '/'))
    else .error (.invalidAuthority authority)
  | cs => .ok cs

/-- A parameter: its name and its value. One without a name does not count. -/
def parameter? (item : String) : Option (String × List UInt8) :=
  let name := item.toList.takeWhile (· != '=')
  let value := item.toList.drop (name.length + 1)
  match unescape name with
  | [] => none
  | bytes => some (Text.Utf8.lenient bytes, unescape value)

/-- The value of the first parameter of a name. -/
abbrev value? (parameters : List (String × List UInt8)) (name : String) : Option (List UInt8) :=
  parameters.lookup name

/-! ## 2. Truth values -/

/-- The value of a digit to the base sixteen. -/
def hexDigit? (c : Char) : Option Nat :=
  if c.isDigit then some (c.toNat - 48)
  else if 'a' ≤ c && c ≤ 'f' then some (c.toNat - 87)
  else if 'A' ≤ c && c ≤ 'F' then some (c.toNat - 55)
  else none

/-- The number that the leading digits to a base write; one that needs more than 31 bits counts as
zero. -/
def leadingNumber (base : Nat) (digit? : Char → Option Nat) (cs : List Char) : Nat :=
  let digits := (cs.takeWhile fun c => (digit? c).isSome).filterMap digit?
  let n := digits.foldl (fun n d => n * base + d) 0
  if n ≤ Int32.maxValue.toInt.toNat then n else 0

/-- Whether a value means yes: a word, or a number whose lowest byte is not zero. -/
def isYes (value : String) : Bool :=
  match value.toList with
  | [] => false
  | '0' :: x :: rest =>
    if (x == 'x' || x == 'X') && rest.head?.any fun c => (hexDigit? c).isSome then
      leadingNumber 16 hexDigit? rest % 256 != 0
    else leadingNumber 10 Text.Decimal.digit? ('0' :: x :: rest) % 256 != 0
  | c :: rest =>
    if c.isDigit then leadingNumber 10 Text.Decimal.digit? (c :: rest) % 256 != 0
    else ["on", "yes", "true"].contains (String.ofList ((c :: rest).map Char.toLower))

/-- Whether a parameter is there and means yes. -/
def isOn (parameters : List (String × List UInt8)) (name : String) : Bool :=
  (value? parameters name).any fun value => isYes (Text.Utf8.lenient value)

/-! ## 3. Choices -/

/-- What the parameters choose from. -/
structure Choice where
  access : Access := .creating
  /-- The system that keeps the files. -/
  system : String := "unix"

/-- The systems that there are. -/
def systems : List String := ["unix", "unix-excl", "unix-none", "unix-dotfile", "memdb"]

/-- How files are locked in a system. -/
def lockingIn (system : String) : Locking :=
  if system == "unix-none" then .none
  else if system == "unix-dotfile" then .byFile
  else .shared

/-- Lets a parameter choose. -/
def choose (c : Choice) (parameter : String × List UInt8) : Except DatabaseFault Choice :=
  let word := Text.Utf8.lenient parameter.2
  if parameter.1 == "vfs" then .ok { c with system := word }
  else if parameter.1 == "cache" then
    if word == "shared" || word == "private" then .ok c else .error (.noSuchCacheMode word)
  else if parameter.1 == "mode" then
    match Access.named? word with
    | none => .error (.noSuchAccessMode word)
    | some access =>
      if c.access.admits access then .ok { c with access } else .error (.accessNotAllowed word)
  else .ok c

/-! ## 4. Names -/

/-- The path of a database that is kept in memory. -/
def memoryPath : String := ":memory:"

/-- The location that a URI gives, which has been read up to its colon. -/
def ofUri (given : String) (cs : List Char) : Except DatabaseFault Location := do
  let cs := (← afterAuthority cs).takeWhile (· != '#')
  let path := cs.takeWhile (· != '?')
  let query := String.ofList (cs.drop (path.length + 1))
  let parameters := (query.splitOn "&").filterMap parameter?
  let choice ← parameters.foldlM choose {}
  if !systems.contains choice.system then throw (.noSuchSystem choice.system)
  let path := unescape path
  let frozen := isOn parameters "immutable"
  if path == Text.Utf8.encode memoryPath || choice.access == .inMemory then
    return { given, place := .memory, access := choice.access }
  else if path.isEmpty then return { given, place := .temporary, access := choice.access }
  else if choice.system == "memdb" then
    return { given, place := .memory, access := if frozen then .reading else choice.access }
  else
    return {
      given
      place := .file path
      access := choice.access
      locking := if isOn parameters "nolock" then .none else lockingIn choice.system
      frozen
      pattern := value? parameters "modeof" }

/-- The location that a name gives. -/
def read (given : String) : Except DatabaseFault Location :=
  match given.toList.findIdx? (· == Char.ofNat 0) with
  | some i => .error (.unusablePath (Text.Utf8.encode (given.take i).toString).length)
  | none =>
    match given.toList with
    | 'f' :: 'i' :: 'l' :: 'e' :: ':' :: rest => ofUri given rest
    | _ =>
      .ok {
        given
        place := if given == memoryPath then .memory else .file (Text.Utf8.encode given) }

/-- Whether nothing can be changed. -/
def readOnly (l : Location) : Bool := l.access == .reading || l.frozen

end Location

end CredentialSync
