import CredentialSync.Store.Database
import CredentialSync.Store.Table

/-!
# Record stores

A `Store` is either of the two record stores. All of them offer the same operations, which this
file collects; the rest of the library works with a `Store` only.
-/

namespace CredentialSync

/-- A record store. -/
inductive Store where
  | table (t : Table)
  | database (d : Database)
  deriving DecidableEq

namespace Store

/-- An operation given for both stores. -/
def either {α : Type} (onTable : Attempt Table α) (onDatabase : Attempt Database α) :
    Attempt Store α :=
  Attempt.ofFunction fun
    | .table t => let (r, t) := onTable.perform t; (r, .table t)
    | .database d => let (r, d) := onDatabase.perform d; (r, .database d)

/-- All records. -/
def readAll : Attempt Store (SortedMap PrimaryKey Record) := either Table.readAll Database.readAll

/-- The record under a key. -/
def record? (key : PrimaryKey) : Attempt Store (Option Record) :=
  either (Table.record? key) (Database.record? key)

/-- The key of a record with the natural key. -/
def find? (key : NaturalKey) : Attempt Store (Option PrimaryKey) :=
  either (Table.find? key) (Database.find? key)

/-- The number of records. -/
def count : Attempt Store Nat := either (return (← Table.readAll).size) Database.count

/-- Adds a record under a fresh key. -/
def add (r : Record) : Attempt Store (List LocalChange) := either (Table.add r) (Database.add r)

/-- Overwrites the record with the same natural key, if there is one. -/
def update (r : Record) : Attempt Store (List LocalChange) :=
  either (Table.update r) (Database.update r)

/-- Overwrites the record under a key if it has the same natural key. -/
def updateAt (key : PrimaryKey) (r : Record) : Attempt Store (List LocalChange) :=
  either (Table.updateAt key r) (Database.updateAt key r)

/-- Removes the record under a key, if there is one. -/
def remove (key : PrimaryKey) : Attempt Store (List LocalChange) :=
  either (Table.remove key) (Database.remove key)

/-- Opens a transaction. -/
def begin : Attempt Store Unit := either Table.begin Database.begin

/-- Closes the transaction and keeps what was done. -/
def commit : Attempt Store Unit := either Table.commit Database.commit

/-- Closes the transaction and undoes what was done. -/
def rollback : Attempt Store Unit := either Table.rollback Database.rollback

/-- All metadata. -/
def readMetadata : Attempt Store MetadataBatch := either Table.readMetadata Database.readMetadata

/-- Carries out one change to the metadata. -/
def writeMetadata (w : MetadataWrite) : Attempt Store Unit :=
  either (Table.writeMetadata w) (Database.writeMetadata w)

/-- Whether a transaction is open. -/
def isOpen : Store → Bool
  | .table t => t.saved.isSome
  | .database d => d.saved.isSome

end Store

end CredentialSync
