import CredentialSync.Blob
import CredentialSync.Metadata.Basic

/-!
# Metadata as bytes

How a database keeps metadata: the fields one after another in the layout of `Blob`. Bytes behind
the last field do not count when they are read.
-/

namespace CredentialSync

namespace EntityMetadata

/-- The bytes of a record's metadata. -/
def blob (m : EntityMetadata) : List UInt8 :=
  Blob.ofText m.tagHash ++ Blob.ofText m.serverId ++ Blob.ofInt64 m.serverVersion
    ++ Blob.ofInt64 m.sequenceNumber ++ Blob.ofInt64 m.ackedSequenceNumber
    ++ Blob.ofText m.payloadHash ++ Blob.ofInt64 m.creationTime ++ Blob.ofInt64 m.modificationTime
    ++ Blob.ofBool m.isDeleted

/-- Reads a record's metadata, field by field. -/
def reader : Blob.Reader EntityMetadata := do
  let tagHash ← Blob.Reader.text
  let serverId ← Blob.Reader.text
  let serverVersion ← Blob.Reader.int64
  let sequenceNumber ← Blob.Reader.int64
  let ackedSequenceNumber ← Blob.Reader.int64
  let payloadHash ← Blob.Reader.text
  let creationTime ← Blob.Reader.int64
  let modificationTime ← Blob.Reader.int64
  let isDeleted ← Blob.Reader.bool
  return { tagHash, serverId, serverVersion, sequenceNumber, ackedSequenceNumber, payloadHash,
           creationTime, modificationTime, isDeleted }

/-- The metadata that bytes hold. -/
def ofBlob (bytes : List UInt8) : Except Blob.Fault EntityMetadata := Blob.read reader bytes

end EntityMetadata

namespace ModelState

/-- The bytes of the model state. -/
def blob (s : ModelState) : List UInt8 :=
  Blob.ofBool s.initialSyncDone ++ Blob.ofBytes s.progressToken

/-- Reads the model state, field by field. -/
def reader : Blob.Reader ModelState := do
  let initialSyncDone ← Blob.Reader.bool
  let progressToken ← Blob.Reader.bytes
  return { initialSyncDone, progressToken }

/-- The model state that bytes hold. -/
def ofBlob (bytes : List UInt8) : Except Blob.Fault ModelState := Blob.read reader bytes

end ModelState

end CredentialSync
