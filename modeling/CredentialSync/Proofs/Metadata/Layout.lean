import CredentialSync.Metadata.Layout
import CredentialSync.Proofs.Blob

/-!
# Metadata read back from bytes

What is written about a record, or about the exchange as a whole, is read back as it was
(`EntityMetadata.ofBlob_blob`, `ModelState.ofBlob_blob`). It has to fit: no text and no token may be
longer than the length in front of it can say.
-/

namespace CredentialSync

/-- The length of the text can be written. -/
def Blob.FitsText (s : String) : Prop := (Text.Utf8.encode s).length < lengthLimit

instance (s : String) : Decidable (Blob.FitsText s) := inferInstanceAs (Decidable (_ < _))

/-- The lengths of all texts can be written. -/
structure EntityMetadata.Fits (m : EntityMetadata) : Prop where
  tagHash : Blob.FitsText m.tagHash
  serverId : Blob.FitsText m.serverId
  payloadHash : Blob.FitsText m.payloadHash

/-- The length of the token can be written. -/
def ModelState.Fits (s : ModelState) : Prop := s.progressToken.length < Blob.lengthLimit

/-- What is to be written can be written. -/
def MetadataWrite.Fits : MetadataWrite → Prop
  | .setState state => state.Fits
  | .clearState => True
  | .set _ metadata => metadata.Fits
  | .clear _ => True

open Blob.Reader

theorem EntityMetadata.accepts_blob {m : EntityMetadata} (h : m.Fits) : reader.Accepts m.blob m := by
  unfold blob
  simp only [List.append_assoc]
  refine (accepts_text h.tagHash).bind ?_
  refine (accepts_text h.serverId).bind ?_
  refine (accepts_int64 m.serverVersion).bind ?_
  refine (accepts_int64 m.sequenceNumber).bind ?_
  refine (accepts_int64 m.ackedSequenceNumber).bind ?_
  refine (accepts_text h.payloadHash).bind ?_
  refine (accepts_int64 m.creationTime).bind ?_
  refine (accepts_int64 m.modificationTime).bind ?_
  exact (accepts_bool m.isDeleted).map _

/-- **The metadata of a record is read back.** -/
theorem EntityMetadata.ofBlob_blob {m : EntityMetadata} (h : m.Fits) : ofBlob m.blob = .ok m := by
  have hread := (accepts_blob h).read []
  rwa [List.append_nil] at hread

theorem ModelState.accepts_blob {s : ModelState} (h : s.Fits) : reader.Accepts s.blob s :=
  (accepts_bool s.initialSyncDone).bind ((accepts_bytes h).map _)

/-- **The model state is read back.** -/
theorem ModelState.ofBlob_blob {s : ModelState} (h : s.Fits) : ofBlob s.blob = .ok s := by
  have hread := (accepts_blob h).read []
  rwa [List.append_nil] at hread

end CredentialSync
