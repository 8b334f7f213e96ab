import CredentialSync.Proofs.Store.Transactions

/-!
# How databases fail

Whatever is read or edited in a database, and whatever is done to its transaction, it fails with a
`DatabaseFault` only (`Database.Faulty`). No such fault reads like the failure of an addition that reports
no new record (`DatabaseFault.message_ne`).
-/

namespace CredentialSync

open Attempt

/-- The error is a fault of a database. -/
def SyncError.IsFault (e : SyncError) : Prop := ∃ fault : DatabaseFault, e = fault.store

namespace Database

variable {α β : Type}

/-! ## 1. Statements -/

/-- The operation fails with faults of the database only. -/
def Faulty (a : Attempt Database α) : Prop := ∀ d, a.FailsWith SyncError.IsFault d

theorem Faulty.pure (a : α) : Faulty (pure a : Attempt Database α) := failsWith_pure a

theorem Faulty.get : Faulty (get : Attempt Database Database) := fun d =>
  Succeeds.failsWith ⟨d, d, rfl⟩

theorem Faulty.set (d : Database) : Faulty (set d : Attempt Database PUnit) := fun _ =>
  Succeeds.failsWith ⟨⟨⟩, d, rfl⟩

theorem Faulty.modify (f : Database → Database) : Faulty (modify f : Attempt Database PUnit) :=
  fun d => Succeeds.failsWith ⟨⟨⟩, f d, rfl⟩

theorem Faulty.throw (fault : DatabaseFault) : Faulty (throw fault.store : Attempt Database α) :=
  failsWith_throw ⟨fault, rfl⟩

theorem Faulty.bind {a : Attempt Database α} {f : α → Attempt Database β} (ha : Faulty a)
    (hf : ∀ x, Faulty (f x)) : Faulty (a >>= f) := fun d => (ha d).bind fun x t _ => hf x t

theorem faulty_recordTable : Faulty recordTable :=
  Faulty.get.bind fun d => by
    split
    · exact .throw _
    · exact .pure _

theorem faulty_guardWrite : Faulty guardWrite :=
  Faulty.get.bind fun d => by
    split
    · exact .throw _
    · exact .pure _

/-! ## 2. Reading -/

theorem fault_of_read {row : Row} {e : SyncError} (h : row.read = .error e) : e.IsFault := by
  unfold Row.read at h
  split at h <;> cases h
  exact ⟨_, rfl⟩

theorem faulty_record? (key : PrimaryKey) : Faulty (record? key) :=
  faulty_recordTable.bind fun t => failsWith_ofExcept fun e he => by
    unfold RecordTable.record? at he
    split at he
    · cases he
    · next row _ =>
      cases hread : row.read with
      | ok r =>
        rw [hread] at he
        cases he
      | error e' =>
        rw [hread] at he
        cases he
        exact fault_of_read hread

theorem faulty_find? (key : NaturalKey) : Faulty (find? key) :=
  faulty_recordTable.bind fun _ => .pure _

/-- The first unreadable row is the error. -/
theorem fault_of_records {rows : List (PrimaryKey × Row)} {m : SortedMap PrimaryKey Record}
    {e : SyncError}
    (h : rows.foldlM (fun m (x : PrimaryKey × Row) => x.2.read.map fun r => m.insert x.1 r) m =
      .error e) : e.IsFault := by
  induction rows generalizing m with
  | nil => cases h
  | cons x rows ih =>
    rw [List.foldlM_cons] at h
    cases hread : x.2.read with
    | ok r =>
      rw [hread] at h
      exact ih h
    | error e' =>
      rw [hread] at h
      cases h
      exact fault_of_read hread

theorem faulty_readAll : Faulty readAll :=
  faulty_recordTable.bind fun _ => failsWith_ofExcept fun _ he => fault_of_records he

/-! ## 3. Changing -/

theorem faulty_deleteRow (key : PrimaryKey) : Faulty (deleteRow key) :=
  faulty_guardWrite.bind fun _ => faulty_recordTable.bind fun _ => .modify _

theorem faulty_insertRow (r : Record) : Faulty (insertRow r) :=
  faulty_guardWrite.bind fun _ => faulty_recordTable.bind fun t => by
    split
    · exact (Faulty.modify _).bind fun _ => .pure _
    · exact (Faulty.modify _).bind fun _ => .throw _

theorem faulty_overwriteRow (key : PrimaryKey) (r : Record) : Faulty (overwriteRow key r) :=
  faulty_guardWrite.bind fun _ => faulty_recordTable.bind fun _ => (Faulty.modify _).bind fun _ =>
    .pure _

theorem faulty_remove (key : PrimaryKey) : Faulty (remove key) :=
  (faulty_record? key).bind fun r => by
    split
    · exact .pure _
    · exact (faulty_deleteRow key).bind fun _ => .pure _

theorem faulty_add (r : Record) : Faulty (add r) := by
  refine (faulty_find? _).bind fun key? => ?_
  have hinsert (removed : List LocalChange) :
      Faulty (insertRow r >>= fun key => Pure.pure (removed ++ [⟨.add, key, r⟩])) :=
    (faulty_insertRow r).bind fun _ => .pure _
  split
  · exact hinsert _
  · next old =>
    refine (faulty_record? old).bind fun r? => ?_
    split
    · exact hinsert _
    · exact (faulty_deleteRow old).bind fun _ => hinsert _

theorem faulty_update (r : Record) : Faulty (update r) :=
  (faulty_find? _).bind fun key? => by
    split
    · exact .pure _
    · exact faulty_overwriteRow _ r

theorem faulty_updateAt (key : PrimaryKey) (r : Record) : Faulty (updateAt key r) :=
  (faulty_record? key).bind fun old? => by
    split
    · exact .pure _
    · split
      · exact faulty_overwriteRow key r
      · exact .pure _

/-- **An edit of a database fails with a fault of the database.** -/
theorem faulty_edit (e : Edit) : Faulty e.onDatabase := by
  cases e with
  | add r => exact faulty_add r
  | update r => exact faulty_update r
  | updateAt key r => exact faulty_updateAt key r
  | remove key => exact faulty_remove key

/-! ## 4. Transactions -/

theorem faulty_begin : Faulty begin := fun d e d' h => by
  unfold begin at h
  rw [perform_bind, perform_get] at h
  cases hs : d.saved <;> cases hl : (d.locked && !d.readOnly) <;>
    simp [hs, hl] at h <;> obtain ⟨rfl, -⟩ := h <;> exact ⟨_, rfl⟩

theorem faulty_commit : Faulty commit := fun d e d' h => by
  unfold commit at h
  rw [perform_bind, perform_get] at h
  cases hs : d.saved <;> cases hb : (d.busy && !d.readOnly) <;> simp [hs, hb] at h <;>
    obtain ⟨rfl, -⟩ := h <;> exact ⟨_, rfl⟩

end Database

/-! ## 5. Stores that replace -/

namespace Store

variable {s : Store}

/-- An operation of a store that is a database. -/
theorem fault_of_either {α : Type} {onTable : Attempt Table α} {onDatabase : Attempt Database α}
    (hfaulty : Database.Faulty onDatabase) (h : s.replaces = true) :
    (either onTable onDatabase).FailsWith SyncError.IsFault s := by
  cases s with
  | table t => cases h
  | database d =>
    intro e s' he
    exact hfaulty d e _ (Prod.ext (Prod.mk.inj he).1 rfl)

theorem fault_of_edit (h : s.replaces = true) (e : Edit) :
    e.attempt.FailsWith SyncError.IsFault s := by
  rw [Edit.attempt_eq]
  exact fault_of_either (Database.faulty_edit e) h

end Store

/-- No fault has the wording of an addition that reports nothing. -/
theorem DatabaseFault.message_ne (fault : DatabaseFault) :
    fault.message ≠ "add reported no new record" := by
  -- they differ in the first two characters
  suffices hstart : fault.message.toList.take 2 ≠ ['a', 'd'] from fun h => hstart (h ▸ by simp)
  unfold message
  cases fault <;> simp

end CredentialSync
