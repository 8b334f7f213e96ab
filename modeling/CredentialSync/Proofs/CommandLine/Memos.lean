import CredentialSync.CommandLine.Forwarder
import CredentialSync.Proofs.Metadata.Layout
import CredentialSync.Proofs.Mirror.Run
import CredentialSync.Proofs.Tracking.Hash

/-!
# The memos of the records

The forwarder of the command line answers the announcement of a change with the metadata of the record,
its memo, or clears the one it has (`LocalChange.memo`). Metadata that consists of a memo of each
resident record (`MetadataBatch.MemosOf`) does so again behind the memos of all changes
(`MemosOf.steps`).

Such metadata is what becomes of a mirror of the records if each entity is replaced by its memo, so
what is known of mirrors holds of it too. Its keys are just the storage keys of the resident records
(`MemosOf.isSome_iff`), and there are as many memos as records (`MemosOf.size_eq`).
-/

namespace CredentialSync

open CommandLine

/-! ## 1. Answers of the forwarder -/

/-- The metadata that the forwarder writes of an entity. -/
def Entity.memo (e : Entity) : EntityMetadata where
  tagHash := e.tagHash
  sequenceNumber := 1
  creationTime := e.creationTime

/-- The metadata that the forwarder writes of a record. -/
def Record.memo (r : Record) : EntityMetadata := (Entity.ofRecord r).memo

/-- The memo of a record can be written. -/
theorem Record.fits_memo (r : Record) : r.memo.Fits := by
  have hempty : Blob.FitsText "" := by
    show (Text.Utf8.encode "").length < Blob.lengthLimit
    decide
  exact ⟨length_tagHash r.specifics.tag, hempty, hempty⟩

/-- The memo of a change. -/
def LocalChange.memo (c : LocalChange) : MetadataWrite :=
  match c.kind with
  | .remove => .clear c.storageKey
  | _ => .set c.storageKey c.record.memo

theorem LocalChange.fits_memo (c : LocalChange) : c.memo.Fits := by
  unfold memo
  cases c.kind with
  | remove => trivial
  | add | update => exact c.record.fits_memo

/-- **The forwarder answers the announcement of a change with the memo of it**, and goes on tracking or
    not. -/
theorem CommandLine.Forwarder.deliver_call (c : LocalChange) (f : Forwarder) :
    (c.call.deliver f).1 = [c.memo] ∧ (c.call.deliver f).2.tracking = f.tracking := by
  unfold LocalChange.call LocalChange.memo
  cases c.kind <;> exact ⟨rfl, rfl⟩

/-! ## 2. Memos of all records -/

/-- The metadata holds a memo of each resident record under its storage key, and nothing else. -/
def MetadataBatch.MemosOf (b : MetadataBatch) (v : Vault) : Prop :=
  ∃ m, Copies m v ∧ b = { entities := m.mapValues Entity.memo }

namespace MetadataBatch.MemosOf

variable {b b' : MetadataBatch} {v v' : Vault} {cs : List LocalChange}

theorem empty : MemosOf {} {} := ⟨∅, .empty fun _ => rfl, rfl⟩

/-- No model state is noted. -/
theorem modelState_eq (h : b.MemosOf v) : b.modelState = {} := by
  obtain ⟨m, -, rfl⟩ := h
  rfl

/-- The memo under a storage key. -/
theorem get?_storageKey (h : b.MemosOf v) (key : PrimaryKey) :
    b.entities.get? key.storageKey = (v.records.get? key).map Record.memo := by
  obtain ⟨m, hm, rfl⟩ := h
  rw [SortedMap.get?_mapValues, hm.agrees, Option.map_map]
  rfl

/-- **There are memos of the resident records only.** -/
theorem isSome_iff (h : b.MemosOf v) (text : StorageKey) :
    (b.entities.get? text).isSome = true ↔
      ∃ key : PrimaryKey, key.storageKey = text ∧ (v.records.get? key).isSome = true := by
  constructor
  · intro hsome
    by_cases hkey : ∃ key : PrimaryKey, key.storageKey = text
    · obtain ⟨key, rfl⟩ := hkey
      rw [h.get?_storageKey, Option.isSome_map] at hsome
      exact ⟨key, rfl, hsome⟩
    · obtain ⟨m, hm, rfl⟩ := h
      rw [SortedMap.get?_mapValues, Option.isSome_map,
        hm.foreign text fun key hk => hkey ⟨key, hk⟩] at hsome
      cases hsome
  · rintro ⟨key, rfl, hsome⟩
    rw [h.get?_storageKey, Option.isSome_map]
    exact hsome

/-- **There are as many memos as records.** -/
theorem size_eq (h : b.MemosOf v) : b.entities.size = v.records.size := by
  have hinjective : (v.records.keys.map PrimaryKey.storageKey).Nodup :=
    v.records.nodup_keys.map fun _ _ => PrimaryKey.storageKey_injective
  have hmem : ∀ text, text ∈ b.entities.keys ↔ text ∈ v.records.keys.map PrimaryKey.storageKey := by
    intro text
    rw [SortedMap.mem_keys_iff, h.isSome_iff, List.mem_map]
    exact exists_congr fun key => by rw [SortedMap.mem_keys_iff, and_comm]
  have hperm := (List.perm_ext_iff_of_nodup b.entities.nodup_keys hinjective).2 hmem
  have hlength := hperm.length_eq
  rwa [List.length_map, SortedMap.length_keys, SortedMap.length_keys] at hlength

/-- The metadata of the same records is the same. -/
theorem unique (h : b.MemosOf v) (h' : b'.MemosOf v) : b = b' := by
  obtain ⟨m, hm, rfl⟩ := h
  obtain ⟨m', hm', rfl⟩ := h'
  have hsame : m = m' := by
    refine SortedMap.ext_get? fun text => ?_
    by_cases hkey : ∃ key : PrimaryKey, key.storageKey = text
    · obtain ⟨key, rfl⟩ := hkey
      rw [hm.agrees, hm'.agrees]
    · rw [hm.foreign text fun key hk => hkey ⟨key, hk⟩, hm'.foreign text fun key hk => hkey ⟨key, hk⟩]
  rw [hsame]

/-- The memo of a change carries its announcement out on the copy. -/
theorem apply_memo (m : SortedMap StorageKey Entity) (c : LocalChange) :
    MetadataBatch.apply { entities := m.mapValues Entity.memo } c.memo =
      { entities := (c.call.upload m).mapValues Entity.memo } := by
  unfold LocalChange.memo LocalChange.call
  cases c.kind with
  | add | update =>
    exact congrArg (MetadataBatch.mk {})
      (SortedMap.mapValues_insert Entity.memo m c.storageKey (Entity.ofRecord c.record)).symm
  | remove =>
    exact congrArg (MetadataBatch.mk {}) (SortedMap.erase_mapValues Entity.memo m c.storageKey).symm

/-- **Memos of all changes lead from the records before them to those behind them.** -/
theorem steps (h : b.MemosOf v) (hsteps : Vault.Steps v cs v') :
    ((cs.map LocalChange.memo).foldl MetadataBatch.apply b).MemosOf v' := by
  obtain ⟨m, hm, rfl⟩ := h
  refine ⟨_, hm.steps hsteps, ?_⟩
  clear hm hsteps
  induction cs generalizing m with
  | nil => rfl
  | cons c cs ih =>
    rw [List.map_cons, List.foldl_cons, apply_memo, ih]
    rfl

end MetadataBatch.MemosOf

end CredentialSync
