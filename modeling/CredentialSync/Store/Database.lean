import CredentialSync.Credential.Change
import CredentialSync.Metadata.Layout
import CredentialSync.Store.Schema

/-!
# The database store

A record store in a database. Natural keys are unique: adding a record whose natural key is taken
removes the old row first. Primary keys are never reused; a rolled-back transaction gives back the
keys it had assigned. Metadata is kept as bytes in tables of its own.

A statement fails if its table does not exist, and a write fails if the database can only be read or
while another connection holds the lock. When the greatest primary key is used up, an insertion
fails, and with it the open transaction ends as if it had been rolled back. A commit that is refused
leaves its transaction open.
-/

namespace CredentialSync

/-! ## 1. Rows -/

namespace Row

/-- A flag as a number. -/
def flag (b : Bool) : Int64 := if b then 1 else 0

/-- The row that is inserted for a record. -/
def ofRecord (r : Record) : Row where
  originUrl := r.origin
  actionUrl := r.action
  usernameElement := r.usernameElement
  usernameValue := r.usernameValue
  passwordElement := r.passwordElement
  passwordValue := r.passwordValue
  signonRealm := r.signonRealm
  scheme := r.scheme.code.toInt64
  preferred := flag r.preferred
  blacklistedByUser := flag r.blacklisted
  timesUsed := r.timesUsed
  dateCreated := r.dateCreated
  displayName := r.displayName
  iconUrl := r.iconUrl

/-- The row with the payload of a record; the columns of the natural key stay as they are. -/
def overwrite (row : Row) (r : Record) : Row :=
  { row with
    actionUrl := r.action
    passwordValue := r.passwordValue
    scheme := r.scheme.code.toInt64
    preferred := flag r.preferred
    blacklistedByUser := flag r.blacklisted
    timesUsed := r.timesUsed
    dateCreated := r.dateCreated
    displayName := r.displayName
    iconUrl := r.iconUrl }

/-- A scheme number too wide for 32 bits, which makes the row unreadable. -/
def wideScheme (row : Row) : Option Int64 :=
  if fitsInt32 row.scheme then none else some row.scheme

/-- The record of a row. -/
def record (row : Row) : Record where
  origin := row.originUrl
  action := row.actionUrl
  usernameElement := row.usernameElement
  usernameValue := row.usernameValue
  passwordElement := row.passwordElement
  passwordValue := row.passwordValue
  signonRealm := row.signonRealm
  scheme := Scheme.ofCode row.scheme.toInt32
  preferred := row.preferred != 0
  blacklisted := row.blacklistedByUser != 0
  timesUsed := row.timesUsed
  dateCreated := row.dateCreated
  displayName := row.displayName
  iconUrl := row.iconUrl

/-- Reads the record of a row. -/
def read (row : Row) : Except SyncError Record :=
  match row.wideScheme with
  | none => .ok row.record
  | some code => .error (DatabaseFault.schemeTooWide code).store

end Row

/-- The key of the row with a natural key. -/
def RecordTable.find? (t : RecordTable) (key : NaturalKey) : Option PrimaryKey :=
  t.rows.findKey? fun row => row.record.naturalKey == key

/-- The record under a key. -/
def RecordTable.record? (t : RecordTable) (key : PrimaryKey) : Except SyncError (Option Record) :=
  match t.rows.get? key with
  | none => .ok none
  | some row => row.read.map some

/-- The table with the payload of a record in the row under a key, if there is one. -/
def RecordTable.overwrite (t : RecordTable) (key : PrimaryKey) (r : Record) : RecordTable :=
  match t.rows.get? key with
  | none => t
  | some row => { t with rows := t.rows.insert key (row.overwrite r) }

/-- The records of all rows in key order; the first unreadable row is the error. -/
def RecordTable.records (t : RecordTable) : Except SyncError (SortedMap PrimaryKey Record) :=
  t.rows.toList.foldlM (fun m (key, row) => row.read.map fun r => m.insert key r) {}

/-- A database and the connection to it. -/
structure Database where
  tables : Tables := {}
  /-- The contents at the beginning of the open transaction. -/
  saved : Option Tables := none
  /-- Whether another connection holds the lock. -/
  locked : Bool := false
  /-- Whether nothing can be changed. -/
  readOnly : Bool := false
  /-- Whether commits are refused. They are if something has been written while another connection
  reads the database, and there is no write-ahead log to keep changes apart from what it reads. -/
  busy : Bool := false
  deriving DecidableEq, Inhabited

namespace Database

/-! ## 2. Statements -/

/-- The table of records, which a statement works on. -/
def recordTable : Attempt Database RecordTable := do
  match (← get).tables.records with
  | none => throw (DatabaseFault.noSuchTable "records").store
  | some t => return t

/-- Why nothing can be written at the moment. -/
def barrier? (d : Database) : Option DatabaseFault :=
  if d.readOnly then some .readOnly else if d.locked then some .locked else none

/-- Fails if nothing can be written. -/
def guardWrite : Attempt Database Unit := do
  if let some fault := (← get).barrier? then throw fault.store

/-- Replaces the table of records. -/
def putRecords (t : RecordTable) (d : Database) : Database :=
  { d with tables := { d.tables with records := some t } }

/-! ## 3. Reading -/

/-- All records. -/
def readAll : Attempt Database (SortedMap PrimaryKey Record) := do
  Attempt.ofExcept (← recordTable).records

/-- The record under a key. -/
def record? (key : PrimaryKey) : Attempt Database (Option Record) := do
  Attempt.ofExcept ((← recordTable).record? key)

/-- The key of the record with a natural key. -/
def find? (key : NaturalKey) : Attempt Database (Option PrimaryKey) :=
  return (← recordTable).find? key

/-- The number of records. -/
def count : Attempt Database Nat := return (← recordTable).rows.size

/-! ## 4. Changing -/

/-- Deletes the row under a key. -/
def deleteRow (key : PrimaryKey) : Attempt Database Unit := do
  guardWrite
  let t ← recordTable
  modify (putRecords { t with rows := t.rows.erase key })

/-- Inserts a row under a fresh key. -/
def insertRow (r : Record) : Attempt Database PrimaryKey := do
  guardWrite
  let t ← recordTable
  if t.lastKey < PrimaryKey.greatest then
    let key := t.lastKey + 1
    modify (putRecords { rows := t.rows.insert key (.ofRecord r), lastKey := key })
    return key
  else
    modify fun d => { d with tables := d.saved.getD d.tables, saved := none }
    throw DatabaseFault.full.store

/-- Overwrites the row under a key with a record of the same natural key. -/
def overwriteRow (key : PrimaryKey) (r : Record) : Attempt Database (List LocalChange) := do
  guardWrite
  let t ← recordTable
  modify (putRecords (t.overwrite key r))
  return [⟨.update, key, r⟩]

/-- Adds a record under a fresh key; a record with the same natural key is removed first. -/
def add (r : Record) : Attempt Database (List LocalChange) := do
  let removed ← match ← find? r.naturalKey with
    | none => pure []
    | some old =>
      match ← record? old with
      | none => pure []
      | some record => do
        deleteRow old
        pure [⟨.remove, old, record⟩]
  let key ← insertRow r
  return removed ++ [⟨.add, key, r⟩]

/-- Overwrites the record with the same natural key. -/
def update (r : Record) : Attempt Database (List LocalChange) := do
  match ← find? r.naturalKey with
  | none => return []
  | some key => overwriteRow key r

/-- Overwrites the record under a key if it has the same natural key. -/
def updateAt (key : PrimaryKey) (r : Record) : Attempt Database (List LocalChange) := do
  match ← record? key with
  | none => return []
  | some old => if old.sameNaturalKey r then overwriteRow key r else return []

/-- Removes the record under a key. -/
def remove (key : PrimaryKey) : Attempt Database (List LocalChange) := do
  match ← record? key with
  | none => return []
  | some old => do
    deleteRow key
    return [⟨.remove, key, old⟩]

/-! ## 5. Transactions -/

/-- Opens a transaction. It needs the lock unless nothing can be changed anyway. -/
def begin : Attempt Database Unit := do
  let d ← get
  if d.saved.isSome then throw DatabaseFault.nestedTransaction.store
  if d.locked && !d.readOnly then throw DatabaseFault.locked.store
  set { d with saved := some d.tables }

/-- Closes the transaction and keeps what was done. If that is refused, the transaction stays open. -/
def commit : Attempt Database Unit := do
  let d ← get
  if d.saved.isNone then throw DatabaseFault.noTransaction.store
  if d.busy && !d.readOnly then throw DatabaseFault.locked.store
  set { d with saved := none }

/-- Closes the transaction, if there is one, and returns to the contents at its beginning. -/
def rollback : Attempt Database Unit :=
  modify fun d => { d with tables := d.saved.getD d.tables, saved := none }

/-! ## 6. Metadata -/

/-- Fails with the wording of a fault of the bytes. -/
def unreadable {α : Type} : Except Blob.Fault α → Attempt Database α
  | .ok a => pure a
  | .error fault => throw (.metadataFailure fault.message)

/-- Reads entries onto a map; the first unreadable one is the error. -/
def readEntries (m : SortedMap StorageKey EntityMetadata) :
    List (StorageKey × List UInt8) → Except Blob.Fault (SortedMap StorageKey EntityMetadata)
  | [] => .ok m
  | (key, bytes) :: rest =>
    match EntityMetadata.ofBlob bytes with
    | .ok metadata => readEntries (m.insert key metadata) rest
    | .error fault => .error fault

/-- All metadata; the model state is read first. -/
def readMetadata : Attempt Database MetadataBatch := do
  let tables := (← get).tables
  match tables.modelState with
  | none => throw (DatabaseFault.noSuchTable "sync_model_state").store
  | some stored =>
    let modelState ← match stored with
      | none => pure {}
      | some bytes => unreadable (ModelState.ofBlob bytes)
    match tables.entityMetadata with
    | none => throw (DatabaseFault.noSuchTable "sync_entity_metadata").store
    | some entries =>
      return { modelState, entities := ← unreadable (readEntries {} entries) }

/-- Sets an entry; it moves to the end. -/
def setEntry (key : StorageKey) (bytes : List UInt8) (entries : List (StorageKey × List UInt8)) :
    List (StorageKey × List UInt8) :=
  entries.filter (·.1 != key) ++ [(key, bytes)]

/-- Carries out a change to the table of entity metadata. -/
def changeEntries (f : List (StorageKey × List UInt8) → List (StorageKey × List UInt8)) :
    Attempt Database Unit := do
  let d ← get
  match d.tables.entityMetadata with
  | none => throw (DatabaseFault.noSuchTable "sync_entity_metadata").metadata
  | some entries =>
    if let some fault := d.barrier? then throw fault.metadata
    set { d with tables := { d.tables with entityMetadata := some (f entries) } }

/-- Replaces the stored model state. -/
def changeState (bytes : Option (List UInt8)) : Attempt Database Unit := do
  let d ← get
  if d.tables.modelState.isNone then
    throw (DatabaseFault.noSuchTable "sync_model_state").metadata
  if let some fault := d.barrier? then throw fault.metadata
  set { d with tables := { d.tables with modelState := some bytes } }

/-- Carries out one change to the metadata. -/
def writeMetadata : MetadataWrite → Attempt Database Unit
  | .setState state => changeState (some state.blob)
  | .clearState => changeState none
  | .set key metadata => changeEntries (setEntry key metadata.blob)
  | .clear key => changeEntries fun entries => entries.filter (·.1 != key)

/-! ## 7. Opening -/

/-- Opens the database anew: an open transaction is lost, and pending migrations run. -/
def reopen : Attempt Database Unit := do
  rollback
  Attempt.within Database.tables (fun t d => { d with tables := t }) Tables.migrate

/-- A new database. -/
def fresh : Database := (reopen.perform {}).2

/-! ## 8. Direct access to the tables

What other connections can do to the database. -/

/-- Inserts a row under a chosen key with any numbers in the columns of scheme and preference. -/
def insertRaw (key : PrimaryKey) (r : Record) (scheme preferred : Int64) (d : Database) :
    Database :=
  match d.tables.records with
  | none => d
  | some t =>
    let row := { Row.ofRecord r with scheme, preferred }
    putRecords
      { rows := t.rows.insert key row, lastKey := if t.lastKey < key then key else t.lastKey } d

/-- Stores bytes as the metadata of a record. -/
def putRawEntry (key : StorageKey) (bytes : List UInt8) (d : Database) : Database :=
  { d with tables := { d.tables with
    entityMetadata := d.tables.entityMetadata.map (setEntry key bytes) } }

/-- Stores bytes as the model state. -/
def putRawState (bytes : List UInt8) (d : Database) : Database :=
  { d with tables := { d.tables with modelState := d.tables.modelState.map fun _ => some bytes } }

/-- Removes a table. -/
def dropTable (name : String) (d : Database) : Database :=
  { d with tables := d.tables.drop name }

end Database

end CredentialSync
