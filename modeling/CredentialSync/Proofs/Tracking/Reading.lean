import CredentialSync.Proofs.Store.Ledger
import CredentialSync.Proofs.Tracking.Tracks

/-!
# Reading metadata

What is read under a key is the last entry that is stored under it (`Store.ok_of_readMetadata`). So
metadata that tracks the records shows, if it can be read, exactly the storage keys of the resident
records, each with the tag hash of its record (`Tracks.read`).
-/

namespace CredentialSync

open Attempt

namespace Database

/-- Entries that are read onto a map; the last one under a key counts. -/
theorem get?_of_readEntries {entries : List (StorageKey × List UInt8)}
    {m m' : SortedMap StorageKey EntityMetadata} (h : readEntries m entries = .ok m')
    (key : StorageKey) :
    ((m'.get? key).map fun md => some md.tagHash) =
      (((entries.filter (·.1 == key)).map fun x => EntityMetadata.hash? x.2).getLast?).or
        ((m.get? key).map fun md => some md.tagHash) := by
  induction entries generalizing m with
  | nil =>
    cases h
    rfl
  | cons x entries ih =>
    obtain ⟨k, bytes⟩ := x
    unfold readEntries at h
    cases hmd : EntityMetadata.ofBlob bytes with
    | error fault =>
      rw [hmd] at h
      cases h
    | ok md =>
      rw [hmd] at h
      rw [ih h, SortedMap.get?_insert, List.filter_cons]
      by_cases hk : k = key
      · have hself : (k == key) = true := by simp [hk]
        rw [if_pos hk, hself, if_pos rfl, List.map_cons, List.getLast?_cons,
          EntityMetadata.hash?_of_ofBlob hmd]
        cases ((entries.filter (·.1 == key)).map fun x => EntityMetadata.hash? x.2).getLast? <;> rfl
      · have hother : (k == key) = false := by simp [hk]
        rw [if_neg hk, hother, if_neg Bool.false_ne_true]

/-- All entries are read if any metadata is. -/
theorem ok_of_readMetadata {d d' : Database} {b : MetadataBatch}
    (h : readMetadata.perform d = (.ok b, d')) :
    ∃ entries, d.tables.entityMetadata = some entries ∧ readEntries {} entries = .ok b.entities := by
  obtain ⟨entries, -, hentries, -, hread, -⟩ := shows_of_readMetadata h
  exact ⟨entries, hentries, hread⟩

end Database

namespace Store

/-- **What is read are the last entries of the metadata.** -/
theorem ok_of_readMetadata {s s' : Store} {b : MetadataBatch}
    (h : readMetadata.perform s = (.ok b, s')) (text : StorageKey) :
    ((b.entities.get? text).map fun md => some md.tagHash) = (s.metadata.under text).getLast? := by
  rcases either_cases h with ⟨t, t', rfl, -, ht⟩ | ⟨d, d', rfl, -, hd⟩
  · unfold Table.readMetadata at ht
    rw [perform_bind, perform_get] at ht
    cases hf : t.faults.metadataReads <;> simp [hf] at ht
    obtain ⟨rfl, -⟩ := ht
    show _ = (Option.toList _).getLast?
    cases t.content.metadata.entities.get? text <;> rfl
  · obtain ⟨entries, hentries, hread⟩ := Database.ok_of_readMetadata hd
    rw [Database.get?_of_readEntries hread]
    simp [Store.metadata, Store.content, Content.metadata, StoredMetadata.under, hentries]

end Store

/-- **Metadata that tracks the records, as it is read.** -/
theorem Tracks.read {s s' : Store} {b : MetadataBatch} (h : Tracks s.metadata s.vault)
    (hread : Store.readMetadata.perform s = (.ok b, s')) :
    (∀ key : PrimaryKey, (b.entities.get? key.storageKey).map (·.tagHash) =
      (s.vault.records.get? key).map (·.specifics.tagHash)) ∧
      ∀ text, (∀ key : PrimaryKey, key.storageKey ≠ text) → b.entities.get? text = none := by
  refine ⟨fun key => ?_, fun text htext => ?_⟩
  · have hlast := Store.ok_of_readMetadata hread key.storageKey
    have hagree := h.agrees key
    unfold Agrees at hagree
    rw [hagree] at hlast
    cases hmd : b.entities.get? key.storageKey <;> cases hr : s.vault.records.get? key <;>
      simp [hmd, hr] at hlast ⊢
    exact hlast
  · have hlast := Store.ok_of_readMetadata hread text
    rw [h.foreign text htext] at hlast
    simpa using hlast

end CredentialSync
