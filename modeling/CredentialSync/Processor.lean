import CredentialSync.Metadata.Pending

/-!
# Change processors

A **change processor** stands for the remote side on this device. It is told about local changes
and about the storage keys of remote entities, and answers with changes to the sync metadata. It
sees neither the store nor whether its changes could be written.

`Recorder` is a processor that keeps a list of everything it was told.
-/

namespace CredentialSync

/-! ## 1. The interface -/

/-- States of type `π` are states of a change processor. -/
class Processor (π : Type) where
  /-- Whether local changes are of interest. -/
  isTracking : π → Bool
  /-- A record was added or changed on this device. -/
  put : StorageKey → Entity → π → List MetadataWrite × π
  /-- A record was removed on this device. -/
  delete : StorageKey → π → List MetadataWrite × π
  /-- A remote entity received a storage key. -/
  assignKey : Entity → StorageKey → π → List MetadataWrite × π
  /-- The bridge started with this metadata. -/
  ready : MetadataBatch → π → π
  /-- The bridge met an error that it cannot return to a caller. -/
  report : SyncError → π → π

/-! ## 2. Recorders -/

/-- One thing a processor was told. -/
inductive ProcessorCall where
  | put (key : StorageKey) (entity : Entity)
  | delete (key : StorageKey)
  | assignKey (key : StorageKey) (entity : Entity)
  | ready (metadata : MetadataBatch)
  | report (error : SyncError)
  deriving DecidableEq

/-- A processor that keeps everything it was told. -/
structure Recorder where
  tracking : Bool := true
  /-- A quiet recorder answers without changes to the metadata. -/
  quiet : Bool := false
  calls : List ProcessorCall := []
  deriving DecidableEq, Inhabited

namespace Recorder

/-- Notes a call. -/
def note (c : ProcessorCall) (r : Recorder) : Recorder := { r with calls := r.calls ++ [c] }

/-- The answer of a recorder that would like the changes `ws`. -/
def answer (ws : List MetadataWrite) (r : Recorder) : List MetadataWrite :=
  if r.quiet then [] else ws

instance : Processor Recorder where
  isTracking r := r.tracking
  put key e r :=
    (r.answer [.set key { tagHash := e.tagHash, sequenceNumber := 1 }], r.note (.put key e))
  delete key r := (r.answer [.clear key], r.note (.delete key))
  assignKey e key r := (r.answer [.set key (.ofRemote e)], r.note (.assignKey key e))
  ready b r := r.note (.ready b)
  report e r := r.note (.report e)

/-- The entities put so far, with their keys. -/
def puts (r : Recorder) : List (StorageKey × Entity) :=
  r.calls.filterMap fun
    | .put key e => some (key, e)
    | _ => none

end Recorder

end CredentialSync
