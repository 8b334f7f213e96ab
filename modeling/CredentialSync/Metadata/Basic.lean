import CredentialSync.Credential.Entity
import CredentialSync.Key
import CredentialSync.SortedMap

/-!
# Sync metadata

What the remote side wants to be remembered between two runs: an `EntityMetadata` for each record
and one `ModelState`. The bridge stores and returns both unread, except that a merge sets
`ModelState.initialSyncDone`.

* `MetadataBatch` is all of it at one time;
* `MetadataWrite` is one change to it, and `MetadataBatch.apply` carries a change out.
-/

namespace CredentialSync

/-! ## 1. Values -/

/-- What is remembered about one record. -/
structure EntityMetadata where
  tagHash : String := ""
  serverId : String := ""
  serverVersion : Int64 := 0
  sequenceNumber : Int64 := 0
  ackedSequenceNumber : Int64 := 0
  payloadHash : String := ""
  creationTime : Int64 := 0
  modificationTime : Int64 := 0
  isDeleted : Bool := false
  deriving DecidableEq, Inhabited

/-- What is remembered about an entity whose current version came from the remote side. -/
def EntityMetadata.ofRemote (e : Entity) : EntityMetadata where
  tagHash := e.tagHash
  serverId := e.id
  payloadHash := e.specifics.payloadHash
  creationTime := e.creationTime
  modificationTime := e.modificationTime

/-- What is remembered about the exchange as a whole. -/
structure ModelState where
  /-- Whether the first merge is done. -/
  initialSyncDone : Bool := false
  /-- Where the remote side will go on. -/
  progressToken : List UInt8 := []
  deriving DecidableEq, Inhabited

/-- The state once the first merge is done. -/
def ModelState.done (s : ModelState) : ModelState := { s with initialSyncDone := true }

/-! ## 2. All metadata and its changes -/

/-- All sync metadata. -/
structure MetadataBatch where
  modelState : ModelState := {}
  entities : SortedMap StorageKey EntityMetadata := {}
  deriving DecidableEq, Inhabited

/-- One change to the sync metadata. -/
inductive MetadataWrite where
  | setState (state : ModelState)
  | clearState
  | set (key : StorageKey) (metadata : EntityMetadata)
  | clear (key : StorageKey)
  deriving DecidableEq

/-- The metadata after a change. -/
def MetadataBatch.apply (b : MetadataBatch) : MetadataWrite → MetadataBatch
  | .setState state => { b with modelState := state }
  | .clearState => { b with modelState := {} }
  | .set key metadata => { b with entities := b.entities.insert key metadata }
  | .clear key => { b with entities := b.entities.erase key }

end CredentialSync
