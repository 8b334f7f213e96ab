import CredentialSync.Attempt
import CredentialSync.Credential.Record
import CredentialSync.Key
import CredentialSync.SortedMap

/-!
# The schema of a database

What tables a database has and how it comes to have them.

* `Tables` holds the contents of each table, or nothing for a table that does not exist;
* `Migration.all` lists the steps from an empty database to the current schema;
* `migrate` runs the steps above the version that the database notes, each as a whole: it creates
  the tables that do not exist yet and notes its version.

A noted version that does not fit into 32 bits reads as version 0. A note also says when its step was
taken; nothing reads that, and it is left out.
-/

namespace CredentialSync

/-! ## 1. Failures of a database -/

/-- Why a database could not do its work. -/
inductive DatabaseFault where
  | locked
  | noSuchTable (name : String)
  | full
  | nestedTransaction
  | noTransaction
  | versionTaken
  | schemeTooWide (code : Int64)
  | cannotOpen (path : String)
  /-- A path with a character that no path can have, at a position in bytes. -/
  | unusablePath (position : Nat)
  | notADatabase
  | damaged
  | unsupportedFormat
  | readOnly
  /-- A file that goes with the file of the database cannot be used. -/
  | noCompanion
  | diskFailure
  | invalidAuthority (authority : String)
  | noSuchSystem (name : String)
  | noSuchCacheMode (mode : String)
  | noSuchAccessMode (mode : String)
  | accessNotAllowed (mode : String)
  deriving DecidableEq

namespace DatabaseFault

/-- The wording of a failure. -/
def message : DatabaseFault → String
  | .locked => "database is locked"
  | .noSuchTable name => "no such table: " ++ name
  | .full => "database or disk is full"
  | .nestedTransaction => "cannot start a transaction within a transaction"
  | .noTransaction => "cannot commit - no transaction is active"
  | .versionTaken => "UNIQUE constraint failed: schema_version.version"
  | .schemeTooWide code => "Integer " ++ Text.Decimal.ofInt code.toInt ++ " out of range at index 8"
  | .cannotOpen path => "unable to open database file: " ++ path
  | .unusablePath position =>
    "nul byte found in provided data at position: " ++ Text.Decimal.ofNat position
  | .notADatabase => "file is not a database"
  | .damaged => "database disk image is malformed"
  | .unsupportedFormat => "unsupported file format"
  | .readOnly => "attempt to write a readonly database"
  | .noCompanion => "unable to open database file"
  | .diskFailure => "disk I/O error"
  | .invalidAuthority authority => "invalid uri authority: " ++ authority
  | .noSuchSystem name => "no such vfs: " ++ name
  | .noSuchCacheMode mode => "no such cache mode: " ++ mode
  | .noSuchAccessMode mode => "no such access mode: " ++ mode
  | .accessNotAllowed mode => "access mode not allowed: " ++ mode

/-- The failure of a record operation. -/
def store (f : DatabaseFault) : SyncError := .storeFailure f.message

/-- The failure of a write to the metadata. -/
def metadata (f : DatabaseFault) : SyncError := .metadataFailure f.message

end DatabaseFault

/-! ## 2. Tables -/

/-- Whether a number fits 32 bits. -/
def fitsInt32 (n : Int64) : Bool :=
  Int32.minValue.toInt ≤ n.toInt && n.toInt ≤ Int32.maxValue.toInt

/-- A row of the table of records, column by column; the scheme and the flags are numbers. -/
structure Row where
  originUrl : String
  actionUrl : String
  usernameElement : String
  usernameValue : String
  passwordElement : String
  passwordValue : String
  signonRealm : String
  scheme : Int64
  preferred : Int64
  blacklistedByUser : Int64
  timesUsed : Int64
  dateCreated : Int64
  displayName : String
  iconUrl : String
  deriving DecidableEq

/-- The table of records. -/
structure RecordTable where
  rows : SortedMap PrimaryKey Row := {}
  /-- The greatest primary key that a row has had. -/
  lastKey : PrimaryKey := 0
  deriving DecidableEq, Inhabited

/-- The contents of a database, table by table. -/
structure Tables where
  /-- The versions noted by migrations, in ascending order, without the times at which they ran. -/
  versions : Option (List Int64) := none
  records : Option RecordTable := none
  /-- Metadata of records as bytes, the entry written last at the end. -/
  entityMetadata : Option (List (StorageKey × List UInt8)) := none
  /-- The model state as bytes, if there is one. -/
  modelState : Option (Option (List UInt8)) := none
  deriving DecidableEq, Inhabited

namespace Tables

/-- The names of the existing tables, in order. -/
def names (t : Tables) : List String :=
  (if t.records.isSome then ["records"] else [])
    ++ (if t.versions.isSome then ["schema_version"] else [])
    ++ (if t.entityMetadata.isSome then ["sync_entity_metadata"] else [])
    ++ (if t.modelState.isSome then ["sync_model_state"] else [])

/-- Removes a table. -/
def drop (name : String) (t : Tables) : Tables :=
  if name == "records" then { t with records := none }
  else if name == "schema_version" then { t with versions := none }
  else if name == "sync_entity_metadata" then { t with entityMetadata := none }
  else if name == "sync_model_state" then { t with modelState := none }
  else t

end Tables

/-! ## 3. Migrations -/

/-- One step towards the current schema. -/
structure Migration where
  version : Nat
  description : String
  /-- Creates the tables of the step that do not exist. -/
  up : Tables → Tables

/-- All steps in order. -/
def Migration.all : List Migration := [
  { version := 1
    description := "Initial records schema"
    up := fun t => { t with records := some (t.records.getD {}) } },
  { version := 2
    description := "Sync metadata tables"
    up := fun t =>
      { t with
        entityMetadata := some (t.entityMetadata.getD [])
        modelState := some (t.modelState.getD none) } }]

/-- The version of the current schema. -/
def Migration.current : Nat := 2

/-- The version of the last step. -/
def Migration.latest : Nat := (Migration.all.map (·.version)).foldl max 0

namespace Tables

/-- Inserts a version into an ascending list. -/
def insertVersion (v : Int64) : List Int64 → List Int64
  | [] => [v]
  | w :: ws => if v < w then v :: w :: ws else w :: insertVersion v ws

/-- Notes a version; a version is noted only once. -/
def noteVersion (v : Int64) : Attempt Tables Unit := do
  match (← get).versions with
  | none => throw (DatabaseFault.noSuchTable "schema_version").store
  | some vs =>
    if vs.contains v then throw DatabaseFault.versionTaken.store
    modify fun t => { t with versions := some (insertVersion v vs) }

/-- Forgets a version; gives the number of notes removed. -/
def forgetVersion (v : Int64) : Attempt Tables Nat := do
  match (← get).versions with
  | none => throw (DatabaseFault.noSuchTable "schema_version").store
  | some vs =>
    modify fun t => { t with versions := some (vs.filter (· != v)) }
    return vs.countP (· == v)

/-- The versions noted so far. -/
def notedVersions : Attempt Tables (List Int64) := do
  match (← get).versions with
  | none => throw (DatabaseFault.noSuchTable "schema_version").store
  | some vs => return vs

/-- The greatest version noted, if it fits into 32 bits, and else 0. -/
def greatestVersion (vs : List Int64) : Int :=
  match vs.getLast? with
  | none => 0
  | some v => if fitsInt32 v then v.toInt else 0

/-- The version of the database; a database without notes gets a place for them. -/
def version : Attempt Tables Int := do
  modify fun t => { t with versions := some (t.versions.getD []) }
  return greatestVersion ((← get).versions.getD [])

/-- Runs one step: all of it, or nothing if its version cannot be noted. -/
def runMigration (m : Migration) : Attempt Tables Unit := do
  let before ← get
  modify m.up
  try noteVersion (Int64.ofNat m.version)
  catch cause =>
    set before
    throw cause

/-- Runs steps one after another. -/
def runMigrations : List Migration → Attempt Tables Unit
  | [] => pure ()
  | m :: ms => do
    runMigration m
    runMigrations ms

/-- Brings the database to the current schema. -/
def migrate : Attempt Tables Unit := do
  let current ← version
  runMigrations (Migration.all.filter fun m => current < m.version)

end Tables

end CredentialSync
