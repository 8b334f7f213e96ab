import CredentialSync.Attempt
import CredentialSync.Credential.Change
import CredentialSync.Metadata.Basic

/-!
# The table store

A record store held in memory. Primary keys count up from 1, several records may share a natural
key, and a transaction is a copy of the contents to which a rollback returns. No addition is refused
for want of a key: behind the greatest one the counter has run over, and nothing is said about that.

The store can be told to fail (`Faults`), and it keeps a journal of its mutations and transaction
boundaries, so that the behaviour of its users can be watched.
-/

namespace CredentialSync

/-! ## 1. Contents -/

/-- The next primary key after the greatest one given out so far. -/
def PrimaryKey.next? (last : PrimaryKey) : Option PrimaryKey :=
  if last < PrimaryKey.greatest then some (last + 1) else none

/-- One entry of the journal. -/
inductive JournalEntry where
  | began
  | committed
  | rolledBack
  | added (key : PrimaryKey)
  | updated (key : PrimaryKey)
  | removed (key : PrimaryKey)
  deriving DecidableEq

/-- Which operations of a table are told to fail. -/
structure Faults where
  /-- Commits fail. -/
  commits : Bool := false
  /-- Adding, updating and removing fail. -/
  mutations : Bool := false
  /-- Writing metadata fails. -/
  metadataWrites : Bool := false
  /-- Reading metadata fails. -/
  metadataReads : Bool := false
  /-- Transactions cannot begin. -/
  begins : Bool := false
  /-- Rollbacks fail and leave everything as it is. -/
  rollbacks : Bool := false
  /-- Reading records fails. -/
  lookups : Bool := false
  /-- Adding succeeds and reports no change. -/
  silentAdds : Bool := false
  /-- After so many further mutations, mutations begin to fail. -/
  mutationsLeft : Option Nat := none
  deriving DecidableEq, Inhabited

/-- What a transaction of a table covers. -/
structure TableContent where
  records : SortedMap PrimaryKey Record := {}
  /-- The greatest primary key given out so far. -/
  lastKey : PrimaryKey := 0
  metadata : MetadataBatch := {}
  deriving DecidableEq, Inhabited

/-- The least key of a record with the natural key. -/
def TableContent.find? (c : TableContent) (key : NaturalKey) : Option PrimaryKey :=
  c.records.findKey? fun r => r.naturalKey == key

/-- A record store held in memory. -/
structure Table where
  content : TableContent := {}
  /-- The contents at the beginning of the open transaction. -/
  saved : Option TableContent := none
  faults : Faults := {}
  journal : List JournalEntry := []
  /-- How often metadata was to be written. -/
  writeAttempts : Nat := 0
  deriving DecidableEq, Inhabited

namespace Table

/-! ## 2. Reading -/

/-- Fails if records cannot be read. -/
def guardLookup : Attempt Table Unit := do
  if (← get).faults.lookups then throw (.storeFailure "injected lookup failure")

/-- All records. -/
def readAll : Attempt Table (SortedMap PrimaryKey Record) := do
  guardLookup
  return (← get).content.records

/-- The record under a key. -/
def record? (key : PrimaryKey) : Attempt Table (Option Record) := do
  guardLookup
  return (← get).content.records.get? key

/-- The least key of a record with the natural key. -/
def find? (key : NaturalKey) : Attempt Table (Option PrimaryKey) := do
  guardLookup
  return TableContent.find? (← get).content key

/-! ## 3. Changing -/

/-- Counts a mutation, and fails if mutations are told to fail. -/
def guardMutation : Attempt Table Unit := do
  modify fun t =>
    match t.faults.mutationsLeft with
    | none => t
    | some 0 => { t with faults := { t.faults with mutations := true, mutationsLeft := none } }
    | some (n + 1) => { t with faults := { t.faults with mutationsLeft := some n } }
  if (← get).faults.mutations then throw (.storeFailure "injected failure")

/-- Sets a record, and notes it in the journal. -/
def put (key : PrimaryKey) (r : Record) (entry : JournalEntry) (t : Table) : Table :=
  { t with
    content := { t.content with records := t.content.records.insert key r }
    journal := t.journal ++ [entry] }

/-- Adds a record under a fresh key. -/
def add (r : Record) : Attempt Table (List LocalChange) := do
  guardMutation
  let t ← get
  match PrimaryKey.next? t.content.lastKey with
  | none => throw .overflow
  | some key =>
    let content := { t.content with lastKey := key }
    set (put key r (.added key) { t with content := content })
    return if t.faults.silentAdds then [] else [⟨.add, key, r⟩]

/-- Overwrites the first record with the same natural key. -/
def update (r : Record) : Attempt Table (List LocalChange) := do
  guardMutation
  match TableContent.find? (← get).content r.naturalKey with
  | none => return []
  | some key =>
    modify (put key r (.updated key))
    return [⟨.update, key, r⟩]

/-- Overwrites the record under a key if it has the same natural key. -/
def updateAt (key : PrimaryKey) (r : Record) : Attempt Table (List LocalChange) := do
  guardMutation
  match (← get).content.records.get? key with
  | none => return []
  | some old =>
    if old.sameNaturalKey r then
      modify (put key r (.updated key))
      return [⟨.update, key, r⟩]
    else return []

/-- Removes the record under a key. -/
def remove (key : PrimaryKey) : Attempt Table (List LocalChange) := do
  guardMutation
  match (← get).content.records.get? key with
  | none => return []
  | some old =>
    modify fun t =>
      { t with
        content := { t.content with records := t.content.records.erase key }
        journal := t.journal ++ [JournalEntry.removed key] }
    return [⟨.remove, key, old⟩]

/-- Places a record under a chosen key, past all faults. -/
def seed (key : PrimaryKey) (r : Record) (t : Table) : Table :=
  { t with
    content := { t.content with
      records := t.content.records.insert key r
      lastKey := if t.content.lastKey < key then key else t.content.lastKey } }

/-! ## 4. Transactions -/

/-- Opens a transaction. -/
def begin : Attempt Table Unit := do
  let t ← get
  if t.faults.begins then throw (.storeFailure "injected begin failure")
  if t.saved.isSome then throw (.storeFailure "transaction already open")
  set { t with saved := some t.content, journal := t.journal ++ [JournalEntry.began] }

/-- Closes the transaction and keeps what was done. -/
def commit : Attempt Table Unit := do
  let t ← get
  if t.faults.commits then throw (.storeFailure "injected commit failure")
  set { t with saved := none, journal := t.journal ++ [JournalEntry.committed] }

/-- Closes the transaction and returns to the contents at its beginning. -/
def rollback : Attempt Table Unit := do
  let t ← get
  if t.faults.rollbacks then throw (.storeFailure "injected rollback failure")
  set { t with
    content := t.saved.getD t.content
    saved := none
    journal := t.journal ++ [JournalEntry.rolledBack] }

/-! ## 5. Metadata -/

/-- All metadata. -/
def readMetadata : Attempt Table MetadataBatch := do
  let t ← get
  if t.faults.metadataReads then throw (.metadataFailure "injected read failure")
  return t.content.metadata

/-- Carries out one change to the metadata. -/
def writeMetadata (w : MetadataWrite) : Attempt Table Unit := do
  modify fun t => { t with writeAttempts := t.writeAttempts + 1 }
  let t ← get
  if t.faults.metadataWrites then throw (.metadataFailure "injected failure")
  set { t with content := { t.content with metadata := t.content.metadata.apply w } }

end Table

end CredentialSync
