import CredentialSync.Proofs.Attempt
import CredentialSync.Proofs.Store.Vault

/-!
# The contents of stores

A `Content` is what a transaction of a store covers, and thus what a rollback brings back: records,
keys given out and metadata. Both stores are read through it, with the contents as they are now
(`Store.content`) and as they were when the open transaction began (`Store.saved`).

A content shows two sides: its `Content.vault`, on which edits work, and its `Content.metadata`.
`StoredMetadata.apply` is the effect of one change to the metadata as the store keeps it.
-/

namespace CredentialSync

/-! ## 1. Metadata -/

/-- The metadata of a store: values, or the bytes of values in two tables. -/
inductive StoredMetadata where
  | values (batch : MetadataBatch)
  | bytes (entries : Option (List (StorageKey × List UInt8)))
      (modelState : Option (Option (List UInt8)))

namespace StoredMetadata

/-- The metadata after a change. -/
def apply : StoredMetadata → MetadataWrite → StoredMetadata
  | .values b, w => .values (b.apply w)
  | .bytes entries state, .setState s => .bytes entries (state.map fun _ => some s.blob)
  | .bytes entries state, .clearState => .bytes entries (state.map fun _ => none)
  | .bytes entries state, .set key m => .bytes (entries.map (Database.setEntry key m.blob)) state
  | .bytes entries state, .clear key =>
    .bytes (entries.map fun es => es.filter (·.1 != key)) state

end StoredMetadata

/-! ## 2. Contents -/

/-- What a transaction of a store covers. -/
inductive Content where
  | table (c : TableContent)
  | database (t : Tables)

namespace Content

/-- The records and the greatest key given out; a database without the table of records has none. -/
def vault : Content → Vault
  | .table c => { records := c.records, lastKey := c.lastKey }
  | .database t =>
    match t.records with
    | none => {}
    | some r => { records := r.rows.mapValues Row.record, lastKey := r.lastKey }

/-- The metadata. -/
def metadata : Content → StoredMetadata
  | .table c => .values c.metadata
  | .database t => .bytes t.entityMetadata t.modelState

end Content

namespace Store

/-- What the store holds now. -/
def content : Store → Content
  | .table t => .table t.content
  | .database d => .database d.tables

/-- What the store held when the open transaction began. -/
def saved : Store → Option Content
  | .table t => t.saved.map .table
  | .database d => d.saved.map .database

/-- The records of the store and the greatest key it has given out. -/
def vault (s : Store) : Vault := s.content.vault

/-- The metadata of the store. -/
def metadata (s : Store) : StoredMetadata := s.content.metadata

/-- The vault depends on the contents only. -/
theorem vault_congr {s s' : Store} (h : s'.content = s.content) : s'.vault = s.vault :=
  congrArg Content.vault h

/-- The metadata depends on the contents only. -/
theorem metadata_congr {s s' : Store} (h : s'.content = s.content) : s'.metadata = s.metadata :=
  congrArg Content.metadata h

/-- Whether an addition replaces a record with the same natural key. -/
def replaces : Store → Bool
  | .table _ => false
  | .database _ => true

/-- The store is not told to fail. -/
def Quiet : Store → Prop
  | .table t => t.faults = {}
  | .database d => d.barrier? = none ∧ d.busy = false

/-- The store is not told to fail when it is rolled back. -/
def CanRollBack : Store → Prop
  | .table t => t.faults.rollbacks = false
  | .database _ => True

theorem isOpen_eq (s : Store) : s.isOpen = s.saved.isSome := by
  cases s <;> simp [isOpen, saved]

theorem Quiet.canRollBack {s : Store} (h : s.Quiet) : s.CanRollBack := by
  cases s with
  | table t =>
    have hf : t.faults = {} := h
    simp [CanRollBack, hf]
  | database d => trivial

/-- What no operation of a store changes. -/
structure Steady (s s' : Store) : Prop where
  replaces : s'.replaces = s.replaces
  quiet : s.Quiet → s'.Quiet
  canRollBack : s.CanRollBack → s'.CanRollBack

theorem Steady.refl (s : Store) : Steady s s := ⟨rfl, id, id⟩

theorem Steady.trans {s s' s'' : Store} (h : Steady s s') (h' : Steady s' s'') : Steady s s'' :=
  ⟨h'.replaces.trans h.replaces, fun hq => h'.quiet (h.quiet hq),
    fun hr => h'.canRollBack (h.canRollBack hr)⟩

end Store

end CredentialSync
