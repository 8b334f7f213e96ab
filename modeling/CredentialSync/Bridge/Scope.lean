import CredentialSync.Processor
import CredentialSync.Store.Basic

/-!
# The scope of a batch

What an operation works on while its transaction is open: the store, the change processor, and the
metadata that the caller has collected. A `Scope` also gathers

* the changes that the store reports, in order (`changes`);
* the changes to the metadata that were asked for (`asked`), whether or not they were written;
* the first failure of a write to the metadata (`writeFault`). After it no more metadata is
  written; `settle` turns it into the failure of the operation.
-/

namespace CredentialSync

/-- What an operation works on while its transaction is open. -/
structure Scope (π : Type) where
  store : Store
  processor : π
  /-- Metadata that the caller has collected. -/
  pending : PendingMetadata := {}
  /-- The changes made so far. -/
  changes : List LocalChange := []
  /-- The changes to the metadata asked for so far. -/
  asked : List MetadataWrite := []
  /-- The first failure of a write to the metadata. -/
  writeFault : Option SyncError := none

/-- Work within a scope. -/
abbrev Work (π α : Type) := Attempt (Scope π) α

namespace Work

variable {π : Type}

/-! ## 1. Records -/

/-- An operation on the store. -/
def onStore {α : Type} (a : Attempt Store α) : Work π α :=
  Attempt.within Scope.store (fun t s => { s with store := t }) a

/-- A change to the store; what it reports is gathered. -/
def change (a : Attempt Store (List LocalChange)) : Work π (List LocalChange) := do
  let cs ← onStore a
  modify fun s => { s with changes := s.changes ++ cs }
  return cs

/-- Adds a record under a fresh key. -/
def add (r : Record) : Work π (List LocalChange) := change (Store.add r)

/-- Overwrites the record with the same natural key, if there is one. -/
def update (r : Record) : Work π (List LocalChange) := change (Store.update r)

/-- Overwrites the record under a key if it has the same natural key. -/
def updateAt (key : PrimaryKey) (r : Record) : Work π (List LocalChange) :=
  change (Store.updateAt key r)

/-- Removes the record under a key, if there is one. -/
def remove (key : PrimaryKey) : Work π (List LocalChange) := change (Store.remove key)

/-! ## 2. Metadata -/

/-- A failure to write metadata, whatever it was to the store. -/
def asMetadataFailure : SyncError → SyncError
  | .metadataFailure detail => .metadataFailure detail
  | e => .metadataFailure e.message

/-- One change to the metadata in a scope. -/
def writeOne (s : Scope π) (w : MetadataWrite) : Scope π :=
  let s := { s with asked := s.asked ++ [w] }
  match s.writeFault with
  | some _ => s
  | none =>
    match (Store.writeMetadata w).perform s.store with
    | (.ok _, t) => { s with store := t }
    | (.error e, t) => { s with store := t, writeFault := some (asMetadataFailure e) }

/-- Changes to the metadata, one after another. A failure is kept, not raised. -/
def write (ws : List MetadataWrite) : Work π Unit := modify fun s => ws.foldl writeOne s

/-- Writes what the caller has collected; nothing is left to be collected. -/
def writePending : Work π Unit := do
  let s ← get
  set { s with pending := {} }
  write s.pending.writes

/-- Fails if a write to the metadata has failed. -/
def settle : Work π Unit := do
  match (← get).writeFault with
  | none => pure ()
  | some e => throw e

/-! ## 3. The change processor -/

variable [Processor π]

/-- Tells the processor something, and writes what it answers. -/
def tell (f : π → List MetadataWrite × π) : Work π Unit := do
  let s ← get
  let (ws, p) := f s.processor
  set { s with processor := p }
  write ws

/-- Announces a record. -/
def put (key : StorageKey) (e : Entity) : Work π Unit := tell (Processor.put key e)

/-- Announces a removal. -/
def delete (key : StorageKey) : Work π Unit := tell (Processor.delete key)

/-- Tells the processor the storage key of a remote entity. -/
def assignKey (e : Entity) (key : StorageKey) : Work π Unit := tell (Processor.assignKey e key)

end Work

end CredentialSync
