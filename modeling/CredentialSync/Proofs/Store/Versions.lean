import CredentialSync.Proofs.Store.Migrations
import CredentialSync.Proofs.Store.Throughout

/-!
# Versions that stay noted

The versions that a database notes are changed by migrations only: editing records, writing metadata
and transactions leave them alone, whether they succeed or fail (`Store.stable_notes`).

So a database that has been brought to the current schema needs no migration when it is opened again
(`Tables.migrate_of_noted`).
-/

namespace CredentialSync

open Attempt

/-! ## 1. Databases -/

namespace Database

/-- The versions are noted now, and were when the open transaction began. -/
structure Notes (vs : Option (List Int64)) (d : Database) : Prop where
  tables : d.tables.versions = vs
  saved : ∀ t, d.saved = some t → t.versions = vs

variable {vs : Option (List Int64)}

theorem reads_guardWrite : guardWrite.Reads := fun d => by rw [guardWrite_perform]

/-- A change to the table of records leaves the notes alone. -/
theorem keeps_putRecords (f : RecordTable → RecordTable) (t : RecordTable) :
    (modify (putRecords (f t)) : Attempt Database PUnit).Keeps (Notes vs) :=
  .modify fun _ h => ⟨h.tables, h.saved⟩

/-- So does a write to the table of records that does what such changes do. -/
theorem keeps_guarded {α : Type} {f : RecordTable → Attempt Database α}
    (hf : ∀ t, (f t).Keeps (Notes vs)) :
    (do guardWrite; let t ← recordTable; f t : Attempt Database α).Keeps (Notes vs) :=
  reads_guardWrite.keeps.bind fun _ => reads_recordTable.keeps.bind hf

theorem keeps_deleteRow (key : PrimaryKey) : (deleteRow key).Keeps (Notes vs) :=
  keeps_guarded fun t => keeps_putRecords (fun t => { t with rows := t.rows.erase key }) t

theorem keeps_overwriteRow (key : PrimaryKey) (r : Record) : (overwriteRow key r).Keeps (Notes vs) :=
  keeps_guarded fun t =>
    (keeps_putRecords (fun t => t.overwrite key r) t).bind
      fun _ => (Reads.pure _).keeps

/-- An insertion that finds no key goes back to the notes at the beginning of the transaction. -/
theorem keeps_insertRow (r : Record) : (insertRow r).Keeps (Notes vs) := by
  refine keeps_guarded fun t => ?_
  split
  · exact (keeps_putRecords (fun t =>
      { rows := t.rows.insert (t.lastKey + 1) (.ofRecord r), lastKey := t.lastKey + 1 }) t).bind
        fun _ => (Reads.pure _).keeps
  · refine (Keeps.modify fun d h => ⟨?_, fun t hnone => ?_⟩).bind fun _ => (Reads.throw _).keeps
    · cases hs : d.saved with
      | none => exact h.tables
      | some t => exact h.saved t hs
    · cases hnone

/-- **Edits leave the notes alone.** -/
theorem keeps_edit (e : Edit) : e.onDatabase.Keeps (Notes vs) := by
  cases e with
  | add r =>
    have hinsert (removed : List LocalChange) :
        (insertRow r >>= fun key => pure (removed ++ [⟨.add, key, r⟩]) :
          Attempt Database (List LocalChange)).Keeps (Notes vs) :=
      (keeps_insertRow r).bind fun _ => (Reads.pure _).keeps
    refine (reads_find? _).keeps.bind fun found => ?_
    cases found with
    | none => exact hinsert []
    | some old =>
      refine (reads_record? _).keeps.bind fun record => ?_
      cases record with
      | none => exact hinsert []
      | some record => exact (keeps_deleteRow old).bind fun _ => hinsert [⟨.remove, old, record⟩]
  | update r =>
    refine (reads_find? _).keeps.bind fun found => ?_
    cases found with
    | none => exact (Reads.pure _).keeps
    | some key => exact keeps_overwriteRow key r
  | updateAt key r =>
    refine (reads_record? _).keeps.bind fun record => ?_
    cases record with
    | none => exact (Reads.pure _).keeps
    | some old =>
      dsimp only
      split
      · exact keeps_overwriteRow key r
      · exact (Reads.pure _).keeps
  | remove key =>
    refine (reads_record? _).keeps.bind fun record => ?_
    cases record with
    | none => exact (Reads.pure _).keeps
    | some _ => exact (keeps_deleteRow key).bind fun _ => (Reads.pure _).keeps

/-- So do writes to the metadata. -/
theorem keeps_writeMetadata (w : MetadataWrite) : (writeMetadata w).Keeps (Notes vs) := by
  intro d h
  rcases hres : (writeMetadata w).perform d with ⟨res, d'⟩
  cases w with
  | setState state | clearState =>
    rcases Store.changeState_cases hres with ⟨-, rfl⟩ | ⟨_, -, rfl⟩ <;> exact ⟨h.tables, h.saved⟩
  | set key m | clear key =>
    rcases Store.changeEntries_cases hres with ⟨-, rfl⟩ | ⟨_, -, rfl⟩ <;> exact ⟨h.tables, h.saved⟩

end Database

/-! ## 2. Stores -/

namespace Store

/-- The store is a database that notes the versions, now and when the open transaction began. -/
def Notes (vs : Option (List Int64)) : Store → Prop
  | .table _ => False
  | .database d => d.Notes vs

/-- **No operation of a store changes the notes.** -/
theorem stable_notes (vs : Option (List Int64)) : Stable (Notes vs) := by
  have heither {α : Type} {a : Attempt Table α} {b : Attempt Database α}
      (hb : b.Keeps (Database.Notes vs)) {s s' : Store} {res : Except SyncError α} (h : s.Notes vs)
      (hs : (either a b).perform s = (res, s')) : s'.Notes vs := by
    rcases either_cases hs with ⟨t, _, rfl, -, -⟩ | ⟨d, d', rfl, rfl, hd⟩
    · exact h.elim
    · have hkept := hb d h
      rwa [hd] at hkept
  refine ⟨fun {_ _ e _} h hs => ?_, heither fun d h => ?_, heither fun d h => ?_,
    heither fun d h => ?_, fun {_ _ w _} h hs => heither (Database.keeps_writeMetadata w) h hs⟩
  · rw [Edit.attempt_eq] at hs
    exact heither (Database.keeps_edit e) h hs
  · rcases hres : Database.begin.perform d with ⟨res, d'⟩
    rcases database_begin_cases hres with ⟨-, -, rfl⟩ | ⟨_, -, rfl⟩
    · refine ⟨h.tables, fun t ht => ?_⟩
      cases ht
      exact h.tables
    · exact h
  · rcases hres : Database.commit.perform d with ⟨res, d'⟩
    rcases database_commit_cases hres with ⟨-, rfl⟩ | ⟨_, -, rfl⟩
    · exact ⟨h.tables, nofun⟩
    · exact h
  · refine ⟨?_, nofun⟩
    cases hs : d.saved with
    | none => simpa [Database.rollback, hs] using h.tables
    | some t => simpa [Database.rollback, hs] using h.saved t hs

end Store

/-! ## 3. Opening again -/

/-- The versions of the current schema. -/
def Migration.versions : List Int64 := Migration.all.map fun m => Int64.ofNat m.version

/-- **Where the current schema is noted, no migration is left.** -/
theorem Tables.migrate_of_noted {t : Tables} (h : t.versions = some Migration.versions) :
    migrate.perform t = (.ok (), t) := by
  have hnoted : t.noted = Migration.versions := by rw [noted, h]; rfl
  have hnone : t.pending = [] := by rw [pending, hnoted]; decide
  rw [perform_migrate, hnone, hnoted, ← h]
  rfl

end CredentialSync
