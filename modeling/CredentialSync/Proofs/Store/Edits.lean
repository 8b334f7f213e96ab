import CredentialSync.Proofs.Store.Content

/-!
# Edits of stores

Both stores carry out the edits of their vault: an edit that succeeds does to the records what
`Vault.edit` says, and leaves the metadata and the saved contents alone. An edit that fails leaves
everything as it was, with one exception: when a database has given out the greatest primary key, an
addition fails and ends the open transaction, and what was done in it is undone.

* `Table.edit_outcome` and `Database.edit_outcome` say this of each store, and `Store.edited` of
  both, by the three cases of `Store.Edited`;
* `Store.Steady` collects what no operation of a store changes.
-/

namespace CredentialSync

open Attempt

/-- A change to a record of a table. -/
def Edit.onTable : Edit → Attempt Table (List LocalChange)
  | .add r => Table.add r
  | .update r => Table.update r
  | .updateAt key r => Table.updateAt key r
  | .remove key => Table.remove key

/-- A change to a record of a database. -/
def Edit.onDatabase : Edit → Attempt Database (List LocalChange)
  | .add r => Database.add r
  | .update r => Database.update r
  | .updateAt key r => Database.updateAt key r
  | .remove key => Database.remove key

theorem Edit.attempt_eq (e : Edit) : e.attempt = Store.either e.onTable e.onDatabase := by
  cases e <;> rfl

/-! ## 1. Edits of a table -/

/-- The faults after one more mutation was counted. -/
def Faults.counted (f : Faults) : Faults :=
  match f.mutationsLeft with
  | none => f
  | some 0 => { f with mutations := true, mutationsLeft := none }
  | some (n + 1) => { f with mutationsLeft := some n }

namespace Faults

@[simp] theorem counted_none : ({} : Faults).counted = {} := rfl

@[simp] theorem rollbacks_counted (f : Faults) : f.counted.rollbacks = f.rollbacks := by
  unfold counted
  split <;> rfl

@[simp] theorem silentAdds_counted (f : Faults) : f.counted.silentAdds = f.silentAdds := by
  unfold counted
  split <;> rfl

end Faults

namespace Table

/-- The vault of a table. -/
def vault (t : Table) : Vault := { records := t.content.records, lastKey := t.content.lastKey }

/-- The table after one more mutation was counted. -/
def counted (t : Table) : Table := { t with faults := t.faults.counted }

theorem guardMutation_perform (t : Table) :
    guardMutation.perform t = (if t.counted.faults.mutations then
      .error (.storeFailure "injected failure") else .ok ⟨⟩, t.counted) := by
  unfold guardMutation counted Faults.counted
  simp only [perform_bind, perform_modify, perform_get]
  split <;> split <;> simp_all

/-- What follows a counted mutation runs, or the mutation was told to fail. -/
theorem guarded {α : Type} {f : PUnit → Attempt Table α} {t t' : Table} {res : Except SyncError α}
    (h : (guardMutation >>= f).perform t = (res, t')) :
    (∃ e, res = .error e ∧ t' = t.counted) ∨ (f ⟨⟩).perform t.counted = (res, t') := by
  rw [perform_bind, guardMutation_perform] at h
  cases hm : t.counted.faults.mutations <;> simp only [hm] at h
  · exact .inr h
  · cases h
    exact .inl ⟨_, rfl, rfl⟩

/-- What a mutation leaves alone, whether it succeeds or fails. -/
structure Mutated (t t' : Table) : Prop where
  saved : t'.saved = t.saved
  metadata : t'.content.metadata = t.content.metadata
  faults : t'.faults = t.faults.counted

/-- Whether the table is told to report nothing of an edit. -/
def silences (t : Table) : Edit → Bool
  | .add _ => t.faults.silentAdds
  | .update _ | .updateAt _ _ | .remove _ => false

/-- How an edit of a table ends: with an error and all contents as before, or with what the edit of
the vault reports, unless it is silenced. -/
def Outcome (e : Edit) (t : Table) (res : Except SyncError (List LocalChange)) (t' : Table) : Prop :=
  Mutated t t' ∧ ((∃ err, res = .error err ∧ t'.content = t.content) ∨
    ∃ ds, t.vault.edit false e = some (ds, t'.vault) ∧
      res = .ok (if t.silences e then [] else ds))

theorem outcome_counted {t : Table} {e : Edit} {err : SyncError} :
    Outcome e t (.error err) t.counted :=
  ⟨⟨rfl, rfl, rfl⟩, .inl ⟨err, rfl, rfl⟩⟩

theorem add_outcome {t t' : Table} {r : Record} {res : Except SyncError (List LocalChange)}
    (h : (add r).perform t = (res, t')) : Outcome (.add r) t res t' := by
  rcases guarded h with ⟨err, rfl, rfl⟩ | h
  · exact outcome_counted
  rw [bind_of_ok (perform_get t.counted)] at h
  cases hk : PrimaryKey.next? t.content.lastKey with
  | none =>
    simp only [counted, hk, perform_throw, Prod.mk.injEq] at h
    obtain ⟨rfl, rfl⟩ := h
    exact outcome_counted
  | some key =>
    simp only [counted, hk, perform_bind, perform_set, Faults.silentAdds_counted] at h
    have hedit : t.vault.edit false (.add r) = some ([⟨.add, key, r⟩],
        { records := t.content.records.insert key r, lastKey := key }) := by
      simp [Vault.edit, Vault.makeRoom, Vault.add, vault, hk]
    cases hs : t.faults.silentAdds <;> simp only [hs] at h <;> cases h
    all_goals exact ⟨⟨rfl, rfl, rfl⟩, .inr ⟨_, hedit, by simp [silences, hs]⟩⟩

theorem update_outcome {t t' : Table} {r : Record} {res : Except SyncError (List LocalChange)}
    (h : (update r).perform t = (res, t')) : Outcome (.update r) t res t' := by
  rcases guarded h with ⟨err, rfl, rfl⟩ | h
  · exact outcome_counted
  rw [bind_of_ok (perform_get t.counted)] at h
  have hfind : t.vault.find? r.naturalKey = t.counted.content.find? r.naturalKey := rfl
  cases hk : t.counted.content.find? r.naturalKey with
  | none =>
    rw [hk] at h hfind
    cases h
    exact ⟨⟨rfl, rfl, rfl⟩, .inr ⟨[], by rw [Vault.edit, hfind]; rfl, rfl⟩⟩
  | some key =>
    rw [hk] at h hfind
    cases h
    exact ⟨⟨rfl, rfl, rfl⟩, .inr ⟨_, by rw [Vault.edit, hfind]; rfl, rfl⟩⟩

theorem updateAt_outcome {t t' : Table} {key : PrimaryKey} {r : Record}
    {res : Except SyncError (List LocalChange)} (h : (updateAt key r).perform t = (res, t')) :
    Outcome (.updateAt key r) t res t' := by
  rcases guarded h with ⟨err, rfl, rfl⟩ | h
  · exact outcome_counted
  rw [bind_of_ok (perform_get t.counted)] at h
  have hget : t.vault.records.get? key = t.counted.content.records.get? key := rfl
  cases hk : t.counted.content.records.get? key with
  | none =>
    rw [hk] at h hget
    cases h
    exact ⟨⟨rfl, rfl, rfl⟩, .inr ⟨[], by rw [Vault.edit, Vault.updateAt, hget]; rfl, rfl⟩⟩
  | some old =>
    simp only [hk] at h
    rw [hk] at hget
    cases hn : old.sameNaturalKey r <;> simp only [hn] at h <;> cases h
    · refine ⟨⟨rfl, rfl, rfl⟩, .inr ⟨[], ?_, rfl⟩⟩
      simp only [Vault.edit, Vault.updateAt, hget, hn]
      rfl
    · refine ⟨⟨rfl, rfl, rfl⟩, .inr ⟨_, ?_, rfl⟩⟩
      simp only [Vault.edit, Vault.updateAt, hget, hn]
      rfl

theorem remove_outcome {t t' : Table} {key : PrimaryKey}
    {res : Except SyncError (List LocalChange)} (h : (remove key).perform t = (res, t')) :
    Outcome (.remove key) t res t' := by
  rcases guarded h with ⟨err, rfl, rfl⟩ | h
  · exact outcome_counted
  rw [bind_of_ok (perform_get t.counted)] at h
  have hget : t.vault.records.get? key = t.counted.content.records.get? key := rfl
  cases hk : t.counted.content.records.get? key with
  | none =>
    rw [hk] at h hget
    cases h
    exact ⟨⟨rfl, rfl, rfl⟩, .inr ⟨[], by rw [Vault.edit, Vault.remove, hget]; rfl, rfl⟩⟩
  | some old =>
    rw [hk] at h hget
    cases h
    exact ⟨⟨rfl, rfl, rfl⟩, .inr ⟨_, by rw [Vault.edit, Vault.remove, hget]; rfl, rfl⟩⟩

/-- **An edit of a table is the edit of its vault, or fails and changes no contents.** -/
theorem edit_outcome {t t' : Table} {e : Edit} {res : Except SyncError (List LocalChange)}
    (h : e.onTable.perform t = (res, t')) : Outcome e t res t' := by
  cases e with
  | add r => exact add_outcome h
  | update r => exact update_outcome h
  | updateAt key r => exact updateAt_outcome h
  | remove key => exact remove_outcome h

end Table

/-! ## 2. Edits of a database -/

namespace Row

/-- A readable row is read as its record. -/
theorem read_eq_ok {row : Row} {r : Record} (h : row.read = .ok r) : r = row.record := by
  unfold Row.read at h
  split at h
  · cases h
    rfl
  · cases h

theorem flag_bne (b : Bool) : (flag b != 0) = b := by cases b <;> rfl

theorem ofCode_toInt32 (s : Scheme) : Scheme.ofCode s.code.toInt64.toInt32 = s := by cases s <;> rfl

theorem fitsInt32_code (s : Scheme) : fitsInt32 s.code.toInt64 = true := by cases s <;> rfl

@[simp] theorem wideScheme_ofRecord (r : Record) : (ofRecord r).wideScheme = none := by
  rw [wideScheme, ofRecord, fitsInt32_code, if_pos rfl]

/-- **What is inserted for a record is read as the record**: every column of the row is read into the
    field that it was written from. -/
@[simp] theorem record_ofRecord (r : Record) : (ofRecord r).record = r := by
  simp only [record, ofRecord, ofCode_toInt32, flag_bne]

theorem read_ofRecord (r : Record) : (ofRecord r).read = .ok r := by
  rw [read, wideScheme_ofRecord, record_ofRecord]

theorem wideScheme_overwrite (row : Row) (r : Record) : (row.overwrite r).wideScheme = none := by
  rw [wideScheme, overwrite, fitsInt32_code, if_pos rfl]

/-- A row that gets the payload of a record with its natural key is read as the record. -/
theorem record_overwrite {row : Row} {r : Record} (h : row.record.naturalKey = r.naturalKey) :
    (row.overwrite r).record = r := by
  obtain ⟨horigin, helement, hvalue, hpassword, hrealm⟩ := NaturalKey.mk.inj h
  simp only [record] at horigin helement hvalue hpassword hrealm
  simp only [record, overwrite, ofCode_toInt32, flag_bne, horigin, helement, hvalue, hpassword, hrealm]

end Row

namespace RecordTable

@[simp] theorem lastKey_overwrite (t : RecordTable) (key : PrimaryKey) (r : Record) :
    (t.overwrite key r).lastKey = t.lastKey := by
  unfold overwrite
  split <;> rfl

/-- Overwriting the payload of a row replaces a record by one with the same natural key. -/
theorem records_overwrite {t : RecordTable} {key : PrimaryKey} {old r : Record}
    (hold : (t.rows.mapValues Row.record).get? key = some old)
    (hn : old.naturalKey = r.naturalKey) :
    (t.overwrite key r).rows.mapValues Row.record = (t.rows.mapValues Row.record).insert key r := by
  rw [SortedMap.get?_mapValues] at hold
  obtain ⟨row, hrow, rfl⟩ := Option.map_eq_some_iff.1 hold
  simp only [overwrite, hrow, SortedMap.mapValues_insert, Row.record_overwrite hn]

end RecordTable

namespace Database

/-- The vault of a database. -/
def vault (d : Database) : Vault := (Content.database d.tables).vault

theorem vault_of_records {d : Database} {t : RecordTable} (h : d.tables.records = some t) :
    d.vault = { records := t.rows.mapValues Row.record, lastKey := t.lastKey } := by
  simp [vault, Content.vault, h]

theorem recordTable_perform (d : Database) :
    recordTable.perform d = (match d.tables.records with
      | none => .error (DatabaseFault.noSuchTable "records").store
      | some t => .ok t, d) := by
  unfold recordTable
  rw [perform_bind, perform_get]
  cases h : d.tables.records <;> simp [h]

theorem guardWrite_perform (d : Database) :
    guardWrite.perform d = (match d.barrier? with
      | none => .ok ⟨⟩
      | some fault => .error fault.store, d) := by
  unfold guardWrite
  rw [perform_bind, perform_get]
  cases h : d.barrier? <;> simp [h]

theorem reads_recordTable : recordTable.Reads := fun d => by rw [recordTable_perform]

theorem ok_of_recordTable {d d' : Database} {t : RecordTable}
    (h : recordTable.perform d = (.ok t, d')) : d' = d ∧ d.tables.records = some t := by
  rw [recordTable_perform] at h
  cases ht : d.tables.records with
  | none => simp [ht] at h
  | some u =>
    simp only [ht, Prod.mk.injEq, Except.ok.injEq] at h
    exact ⟨h.2.symm, by rw [h.1]⟩

theorem reads_readAll : readAll.Reads := reads_recordTable.bind fun _ => .ofExcept _

theorem reads_record? (key : PrimaryKey) : (record? key).Reads :=
  reads_recordTable.bind fun _ => .ofExcept _

theorem reads_find? (key : NaturalKey) : (find? key).Reads :=
  reads_recordTable.bind fun _ => .pure _

theorem ok_of_record? {d d' : Database} {key : PrimaryKey} {r : Option Record}
    (h : (record? key).perform d = (.ok r, d')) : d' = d ∧ r = d.vault.records.get? key := by
  obtain rfl := (reads_record? key).state h
  obtain ⟨t, _, ht, hread⟩ := ok_of_bind h
  obtain ⟨rfl, ht⟩ := ok_of_recordTable ht
  rw [perform_ofExcept] at hread
  refine ⟨rfl, ?_⟩
  rw [vault_of_records ht, SortedMap.get?_mapValues]
  have hrow : t.record? key = .ok r := (Prod.mk.inj hread).1
  unfold RecordTable.record? at hrow
  cases hget : t.rows.get? key with
  | none =>
    rw [hget] at hrow
    cases hrow
    rfl
  | some row =>
    simp only [hget] at hrow
    cases hr : row.read with
    | error e => rw [hr] at hrow; cases hrow
    | ok r' =>
      rw [hr] at hrow
      cases hrow
      rw [Row.read_eq_ok hr]
      rfl

theorem ok_of_find? {d d' : Database} {nk : NaturalKey} {key : Option PrimaryKey}
    (h : (find? nk).perform d = (.ok key, d')) : d' = d ∧ key = d.vault.find? nk := by
  obtain rfl := (reads_find? nk).state h
  obtain ⟨t, _, ht, hfind⟩ := ok_of_bind h
  obtain ⟨rfl, ht⟩ := ok_of_recordTable ht
  cases hfind
  refine ⟨rfl, ?_⟩
  rw [vault_of_records ht, Vault.find?, SortedMap.findKey?_mapValues]
  rfl

/-- What an edit of the records leaves alone. -/
structure Kept (d d' : Database) : Prop where
  saved : d'.saved = d.saved
  locked : d'.locked = d.locked
  readOnly : d'.readOnly = d.readOnly
  busy : d'.busy = d.busy
  entityMetadata : d'.tables.entityMetadata = d.tables.entityMetadata
  modelState : d'.tables.modelState = d.tables.modelState

theorem Kept.refl (d : Database) : Kept d d := ⟨rfl, rfl, rfl, rfl, rfl, rfl⟩

theorem kept_putRecords (t : RecordTable) (d : Database) : Kept d (d.putRecords t) :=
  ⟨rfl, rfl, rfl, rfl, rfl, rfl⟩

theorem Kept.trans {d d' d'' : Database} (h : Kept d d') (h' : Kept d' d'') : Kept d d'' :=
  ⟨h'.saved.trans h.saved, h'.locked.trans h.locked, h'.readOnly.trans h.readOnly,
    h'.busy.trans h.busy, h'.entityMetadata.trans h.entityMetadata, h'.modelState.trans h.modelState⟩

theorem Kept.metadata {d d' : Database} (h : Kept d d') :
    (Content.database d'.tables).metadata = (Content.database d.tables).metadata := by
  simp only [Content.metadata, h.entityMetadata, h.modelState]

/-- The database after its open transaction was ended by a failure. -/
def lose (d : Database) : Database := { d with tables := d.saved.getD d.tables, saved := none }

/-- How an edit of a database ends. It fails without a trace, or it loses the open transaction. -/
inductive Outcome (e : Edit) (d : Database) :
    Except SyncError (List LocalChange) → Database → Prop where
  | done {ds : List LocalChange} {d' : Database} (hkept : Kept d d')
      (hedit : d.vault.edit true e = some (ds, d'.vault)) : Outcome e d (.ok ds) d'
  | failed (err : SyncError) : Outcome e d (.error err) d
  | lost (err : SyncError) {ds : List LocalChange} {d' : Database} (hkept : Kept d d')
      (hsteps : Vault.Steps d.vault ds d'.vault) : Outcome e d (.error err) d'.lose

/-- Nothing keeps the records from being written. -/
def Writable (d : Database) : Prop := d.barrier? = none ∧ d.tables.records.isSome = true

/-- A write to the table of records fails without a trace, or does what it says. -/
theorem guarded {α : Type} {f : RecordTable → Attempt Database α} {d d' : Database}
    {res : Except SyncError α}
    (h : (do guardWrite; let t ← recordTable; f t : Attempt Database α).perform d = (res, d')) :
    (∃ err, res = .error err ∧ d' = d ∧ ¬ d.Writable) ∨
      ∃ t, d.barrier? = none ∧ d.tables.records = some t ∧ (f t).perform d = (res, d') := by
  rw [perform_bind, guardWrite_perform] at h
  cases hb : d.barrier? with
  | some fault =>
    simp only [hb] at h
    cases h
    exact .inl ⟨_, rfl, rfl, fun hw => by rw [hw.1] at hb; cases hb⟩
  | none =>
    simp only [hb, perform_bind, recordTable_perform] at h
    cases ht : d.tables.records with
    | none =>
      simp only [ht] at h
      cases h
      exact .inl ⟨_, rfl, rfl, fun hw => by rw [Writable, ht] at hw; cases hw.2⟩
    | some t =>
      simp only [ht] at h
      exact .inr ⟨t, rfl, rfl, h⟩

theorem vault_putRecords (t : RecordTable) (d : Database) :
    (d.putRecords t).vault = { records := t.rows.mapValues Row.record, lastKey := t.lastKey } := rfl

theorem deleteRow_cases {d d' : Database} {key : PrimaryKey} {res : Except SyncError Unit}
    (h : (deleteRow key).perform d = (res, d')) :
    (∃ err, res = .error err ∧ d' = d) ∨
      (res = .ok () ∧ Kept d d' ∧ d'.Writable ∧ d'.vault = d.vault.drop key) := by
  rcases guarded h with ⟨err, rfl, rfl, -⟩ | ⟨t, hb, ht, hdel⟩
  · exact .inl ⟨err, rfl, rfl⟩
  · cases hdel
    refine .inr ⟨rfl, kept_putRecords _ d, ⟨hb, rfl⟩, ?_⟩
    rw [vault_putRecords, vault_of_records ht, Vault.drop, SortedMap.erase_mapValues]

theorem insertRow_cases {d d' : Database} {r : Record} {res : Except SyncError PrimaryKey}
    (h : (insertRow r).perform d = (res, d')) :
    (∃ err, res = .error err ∧ ((d' = d ∧ ¬ d.Writable) ∨ d' = d.lose)) ∨
      ∃ key, res = .ok key ∧ Kept d d' ∧ d.vault.add r = some ([⟨.add, key, r⟩], d'.vault) := by
  rcases guarded h with ⟨err, rfl, rfl, hw⟩ | ⟨t, -, ht, hins⟩
  · exact .inl ⟨err, rfl, .inl ⟨rfl, hw⟩⟩
  · by_cases hlt : t.lastKey < PrimaryKey.greatest
    · rw [if_pos hlt] at hins
      cases hins
      refine .inr ⟨_, rfl, kept_putRecords _ d, ?_⟩
      rw [vault_putRecords, vault_of_records ht, Vault.add, PrimaryKey.next?, if_pos hlt,
        SortedMap.mapValues_insert, Row.record_ofRecord]
      rfl
    · rw [if_neg hlt] at hins
      cases hins
      exact .inl ⟨_, rfl, .inr rfl⟩

theorem overwriteRow_cases {d d' : Database} {key : PrimaryKey} {old r : Record}
    {res : Except SyncError (List LocalChange)} (hold : d.vault.records.get? key = some old)
    (hn : old.naturalKey = r.naturalKey) (h : (overwriteRow key r).perform d = (res, d')) :
    (∃ err, res = .error err ∧ d' = d) ∨
      (res = .ok [⟨.update, key, r⟩] ∧ Kept d d' ∧ d'.vault = d.vault.put key r) := by
  rcases guarded h with ⟨err, rfl, rfl, -⟩ | ⟨t, -, ht, hput⟩
  · exact .inl ⟨err, rfl, rfl⟩
  · cases hput
    refine .inr ⟨rfl, kept_putRecords _ d, ?_⟩
    rw [vault_of_records ht] at hold
    rw [vault_putRecords, vault_of_records ht, Vault.put, RecordTable.records_overwrite hold hn,
      RecordTable.lastKey_overwrite]

/-- The last part of an addition, behind the removals that made room. -/
theorem outcome_of_insertRow {d w d' : Database} {r : Record} {removed : List LocalChange}
    {res : Except SyncError (List LocalChange)} (hkept : Kept d w)
    (hroom : d.vault.makeRoom true r = (removed, w.vault)) (hw : w = d ∨ w.Writable)
    (h : ((insertRow r >>= fun key => pure (removed ++ [⟨.add, key, r⟩]) :
      Attempt Database (List LocalChange))).perform w = (res, d')) : Outcome (.add r) d res d' := by
  rw [perform_bind] at h
  rcases hins : (insertRow r).perform w with ⟨res', w'⟩
  rw [hins] at h
  rcases insertRow_cases hins with
    ⟨err, rfl, ⟨rfl, hblocked⟩ | rfl⟩ | ⟨key, rfl, hkept', hadd⟩ <;> cases h
  · rcases hw with rfl | hw
    · exact .failed err
    · exact absurd hw hblocked
  · refine .lost err hkept (?_ : Vault.Steps _ removed _)
    have hsteps := Vault.steps_makeRoom true d.vault r
    rwa [hroom] at hsteps
  · refine .done (hkept.trans hkept') ?_
    rw [Vault.edit, hroom, hadd]
    rfl

theorem add_outcome {d d' : Database} {r : Record} {res : Except SyncError (List LocalChange)}
    (h : (add r).perform d = (res, d')) : Outcome (.add r) d res d' := by
  unfold add at h
  rw [perform_bind] at h
  rcases hfind : (find? r.naturalKey).perform d with ⟨e | key?, d₁⟩ <;> rw [hfind] at h
  · cases h
    rw [(reads_find? _).state hfind]
    exact .failed e
  obtain ⟨rfl, hkey⟩ := ok_of_find? hfind
  cases key? with
  | none =>
    refine outcome_of_insertRow (.refl _) ?_ (.inl rfl) h
    rw [Vault.makeRoom, if_pos rfl, Vault.clear, ← hkey]
  | some old =>
    simp only at h
    rw [perform_bind] at h
    rcases hrec : (record? old).perform d₁ with ⟨e | record?, d₂⟩ <;> rw [hrec] at h
    · cases h
      rw [(reads_record? _).state hrec]
      exact .failed e
    obtain ⟨rfl, hget⟩ := ok_of_record? hrec
    cases record? with
    | none =>
      obtain ⟨r', hr', -⟩ := Vault.find?_eq_some hkey.symm
      rw [hr'] at hget
      cases hget
    | some record =>
      simp only at h
      rw [perform_bind] at h
      rcases hdel : (deleteRow old).perform d₂ with ⟨res', w⟩
      rw [hdel] at h
      rcases deleteRow_cases hdel with ⟨err, rfl, rfl⟩ | ⟨rfl, hkept, hw, hvault⟩
      · cases h
        exact .failed err
      · refine outcome_of_insertRow hkept ?_ (.inr hw) h
        simp only [Vault.makeRoom, if_true, Vault.clear, ← hkey, Vault.remove, ← hget, hvault]

theorem update_outcome {d d' : Database} {r : Record} {res : Except SyncError (List LocalChange)}
    (h : (update r).perform d = (res, d')) : Outcome (.update r) d res d' := by
  unfold update at h
  rw [perform_bind] at h
  rcases hfind : (find? r.naturalKey).perform d with ⟨e | key?, d₁⟩ <;> rw [hfind] at h
  · cases h
    rw [(reads_find? _).state hfind]
    exact .failed e
  · obtain ⟨rfl, hkey⟩ := ok_of_find? hfind
    cases key? with
    | none =>
      cases h
      exact .done (.refl _) (by rw [Vault.edit, ← hkey])
    | some key =>
      obtain ⟨old, hold, hn⟩ := Vault.find?_eq_some hkey.symm
      rcases overwriteRow_cases hold hn h with ⟨err, rfl, rfl⟩ | ⟨rfl, hkept, hvault⟩
      · exact .failed err
      · exact .done hkept (by rw [Vault.edit, ← hkey, hvault])

theorem updateAt_outcome {d d' : Database} {key : PrimaryKey} {r : Record}
    {res : Except SyncError (List LocalChange)} (h : (updateAt key r).perform d = (res, d')) :
    Outcome (.updateAt key r) d res d' := by
  unfold updateAt at h
  rw [perform_bind] at h
  rcases hrec : (record? key).perform d with ⟨e | old?, d₁⟩ <;> rw [hrec] at h
  · cases h
    rw [(reads_record? _).state hrec]
    exact .failed e
  obtain ⟨rfl, hget⟩ := ok_of_record? hrec
  cases old? with
  | none =>
    cases h
    exact .done (.refl _) (by rw [Vault.edit, Vault.updateAt, ← hget])
  | some old =>
    simp only at h
    cases hn : old.sameNaturalKey r <;> simp only [hn] at h
    · cases h
      exact .done (.refl _) (by simp only [Vault.edit, Vault.updateAt, ← hget, hn]; rfl)
    · have hsame : old.naturalKey = r.naturalKey := by simpa [Record.sameNaturalKey] using hn
      rcases overwriteRow_cases hget.symm hsame h with ⟨err, rfl, rfl⟩ | ⟨rfl, hkept, hvault⟩
      · exact .failed err
      · exact .done hkept (by simp only [Vault.edit, Vault.updateAt, ← hget, hn, hvault]; rfl)

theorem remove_outcome {d d' : Database} {key : PrimaryKey}
    {res : Except SyncError (List LocalChange)} (h : (remove key).perform d = (res, d')) :
    Outcome (.remove key) d res d' := by
  unfold remove at h
  rw [perform_bind] at h
  rcases hrec : (record? key).perform d with ⟨e | old?, d₁⟩ <;> rw [hrec] at h
  · cases h
    rw [(reads_record? _).state hrec]
    exact .failed e
  obtain ⟨rfl, hget⟩ := ok_of_record? hrec
  cases old? with
  | none =>
    cases h
    exact .done (.refl _) (by rw [Vault.edit, Vault.remove, ← hget])
  | some old =>
    simp only at h
    rw [perform_bind] at h
    rcases hdel : (deleteRow key).perform d₁ with ⟨res', w⟩
    rw [hdel] at h
    rcases deleteRow_cases hdel with ⟨err, rfl, rfl⟩ | ⟨rfl, hkept, -, hvault⟩ <;> cases h
    · exact .failed err
    · exact .done hkept (by rw [Vault.edit, Vault.remove, ← hget, hvault])

/-- **An edit of a database is the edit of its vault, fails without a trace, or ends the open
    transaction.** -/
theorem edit_outcome {d d' : Database} {e : Edit} {res : Except SyncError (List LocalChange)}
    (h : e.onDatabase.perform d = (res, d')) : Outcome e d res d' := by
  cases e with
  | add r => exact add_outcome h
  | update r => exact update_outcome h
  | updateAt key r => exact updateAt_outcome h
  | remove key => exact remove_outcome h

end Database

/-! ## 3. Edits of a store -/

namespace Store

/-- Whether the store is told to report nothing of an edit. -/
def silences : Store → Edit → Bool
  | .table t, e => t.silences e
  | .database _, _ => false

/-- A store that is not told to fail reports everything. -/
theorem Quiet.reports {s : Store} (h : s.Quiet) (e : Edit) : s.silences e = false := by
  cases s with
  | table t =>
    have hf : t.faults = {} := h
    cases e <;> simp [silences, Table.silences, hf]
  | database d => rfl

/-- Additions are all that a table is told to be silent about. -/
theorem reports_updateAt (s : Store) (key : PrimaryKey) (r : Record) :
    s.silences (.updateAt key r) = false := by
  cases s <;> rfl

theorem reports_remove (s : Store) (key : PrimaryKey) : s.silences (.remove key) = false := by
  cases s <;> rfl

/-- A database reports everything. -/
theorem reports_of_replaces {s : Store} (h : s.replaces = true) (e : Edit) :
    s.silences e = false := by
  cases s with
  | table t => cases h
  | database d => rfl

/-- How an edit of a store ends. It does to the vault what `Vault.edit` says, changes nothing, or
    ends the open transaction; what was done since the transaction began is undone then. -/
inductive Edited (s : Store) (e : Edit) : Except SyncError (List LocalChange) → Store → Prop where
  | done {cs ds : List LocalChange} {s' : Store}
      (hedit : s.vault.edit s.replaces e = some (ds, s'.vault))
      (hreport : cs = if s.silences e then [] else ds) (hsaved : s'.saved = s.saved)
      (hmetadata : s'.metadata = s.metadata) : Edited s e (.ok cs) s'
  | failed {err : SyncError} {s' : Store} (hcontent : s'.content = s.content)
      (hsaved : s'.saved = s.saved) : Edited s e (.error err) s'
  | lost {err : SyncError} {s' : Store} {ds : List LocalChange} {c : Content}
      (hsteps : Vault.Steps s.vault ds c.vault) (hmetadata : c.metadata = s.metadata)
      (hcontent : s'.content = s.saved.getD c) (hsaved : s'.saved = none)
      (hreplaces : s.replaces = true) : Edited s e (.error err) s'

theorem edited_table {t t' : Table} {e : Edit} {res : Except SyncError (List LocalChange)}
    (h : Table.Outcome e t res t') :
    Edited (.table t) e res (.table t') ∧ Steady (.table t) (.table t') := by
  obtain ⟨hkept, hres⟩ := h
  refine ⟨?_, rfl, fun hq => ?_, fun hr => ?_⟩
  · have hsaved : (Store.table t').saved = (Store.table t).saved :=
      congrArg (Option.map _) hkept.saved
    rcases hres with ⟨err, rfl, hc⟩ | ⟨ds, hedit, rfl⟩
    · exact .failed (congrArg Content.table hc) hsaved
    · exact .done hedit rfl hsaved (congrArg StoredMetadata.values hkept.metadata)
  · have hf : t.faults = {} := hq
    show t'.faults = {}
    rw [hkept.faults, hf, Faults.counted_none]
  · have hf : t.faults.rollbacks = false := hr
    show t'.faults.rollbacks = false
    rw [hkept.faults, Faults.rollbacks_counted, hf]

theorem steady_database {d d' : Database} (hlocked : d'.locked = d.locked)
    (hreadOnly : d'.readOnly = d.readOnly) (hbusy : d'.busy = d.busy) :
    Steady (.database d) (.database d') := by
  refine ⟨rfl, fun hq => ⟨?_, hbusy.trans hq.2⟩, fun _ => trivial⟩
  rw [← hq.1, Database.barrier?, Database.barrier?, hlocked, hreadOnly]

theorem edited_database {d d' : Database} {e : Edit} {res : Except SyncError (List LocalChange)}
    (h : Database.Outcome e d res d') :
    Edited (.database d) e res (.database d') ∧ Steady (.database d) (.database d') := by
  cases h with
  | done hkept hedit =>
    exact ⟨.done hedit rfl (congrArg (Option.map _) hkept.saved) hkept.metadata,
      steady_database hkept.locked hkept.readOnly hkept.busy⟩
  | failed err => exact ⟨.failed rfl rfl, .refl _⟩
  | lost err hkept hsteps =>
    next w =>
    refine ⟨.lost (c := .database w.tables) hsteps hkept.metadata ?_ rfl rfl,
      steady_database hkept.locked hkept.readOnly hkept.busy⟩
    show Content.database (w.saved.getD w.tables) = _
    rw [hkept.saved]
    cases hs : d.saved <;> simp [saved, hs]

/-- **How an edit of a store ends, and that the store stays what it is.** -/
theorem edited {s s' : Store} {e : Edit} {res : Except SyncError (List LocalChange)}
    (h : e.attempt.perform s = (res, s')) : Edited s e res s' ∧ Steady s s' := by
  rw [Edit.attempt_eq] at h
  cases s with
  | table t =>
    cases h
    exact edited_table (Table.edit_outcome rfl)
  | database d =>
    cases h
    exact edited_database (Database.edit_outcome rfl)

end Store

end CredentialSync
