import CredentialSync.Credential.Entity
import CredentialSync.Key

/-!
# Changes

* A `RemoteChange` is what the remote side asks for: to add, update or delete an entity.
* A `LocalChange` is what happened to one record of the store.
* A `ChangeBatch` is what one committed transaction did, tagged with the side it came from.
-/

namespace CredentialSync

/-! ## 1. Remote changes -/

/-- What the remote side asks for. -/
inductive RemoteKind where
  | add
  | update
  | delete
  deriving DecidableEq, Inhabited

/-- The name of the kind. -/
def RemoteKind.name : RemoteKind → String
  | .add => "Add"
  | .update => "Update"
  | .delete => "Delete"

/-- One change asked for by the remote side. -/
structure RemoteChange where
  kind : RemoteKind
  /-- Names the record to update or delete. -/
  storageKey : StorageKey := ""
  /-- The entity to store. -/
  data : Option Entity := none
  deriving DecidableEq, Inhabited

/-- The remote side adds an entity. -/
def RemoteChange.add (e : Entity) : RemoteChange := { kind := .add, data := some e }

/-- An entity of a complete record for a realm, as the remote side would add it. -/
def RemoteChange.sample (realm : String) : RemoteChange :=
  .add { Entity.ofRecord (Record.sample realm) with id := "server-" ++ realm }

/-! ## 2. Local changes -/

/-- What happened to a record. -/
inductive LocalKind where
  | add
  | update
  | remove
  deriving DecidableEq, Inhabited

/-- The name of the kind. -/
def LocalKind.name : LocalKind → String
  | .add => "Add"
  | .update => "Update"
  | .remove => "Remove"

/-- What happened to one record; a removal carries the record that was there. -/
structure LocalChange where
  kind : LocalKind
  key : PrimaryKey
  record : Record
  deriving DecidableEq, Inhabited

/-- The storage key of the changed record. -/
def LocalChange.storageKey (c : LocalChange) : StorageKey := PrimaryKey.storageKey c.key

/-- The side that a batch of changes came from. -/
inductive Side where
  /-- A write made on this device. -/
  | device
  /-- Changes of the remote side, applied on this device. -/
  | remote
  deriving DecidableEq, Inhabited

/-- The name of the side. -/
def Side.name : Side → String
  | .device => "Local"
  | .remote => "RemoteApplied"

/-- The changes of one committed transaction, in the order in which they were made. -/
structure ChangeBatch where
  side : Side := .device
  changes : List LocalChange := []
  deriving DecidableEq, Inhabited

namespace ChangeBatch

/-- Whether the batch came from the local side. -/
def isLocal (b : ChangeBatch) : Bool := b.side == .device

/-- The number of changes. -/
def size (b : ChangeBatch) : Nat := b.changes.length

/-- The primary keys of the changed records, in order. -/
def keys (b : ChangeBatch) : List PrimaryKey := b.changes.map (·.key)

end ChangeBatch

end CredentialSync
