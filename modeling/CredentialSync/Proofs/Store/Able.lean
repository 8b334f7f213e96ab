import CredentialSync.Proofs.Store.Reached

/-!
# Stores that fail for want of keys only

A store is `Store.Able` if it is not told to fail, its contents are sound, and all its records can be
read (`Content.Legible`). Such a store reads and writes, begins and commits; an edit fails only where
the edit of the vault has no result, and leaves the store able if it succeeds.

`PrimaryKey.keysLeft` counts the keys above the greatest one given out. An addition takes one of them
(`keysLeft_of_next?`), and it is the only edit that can fail (`Vault.edit_isSome`).
-/

namespace CredentialSync

open Attempt

/-! ## 1. Keys that are left -/

/-- How many keys lie above the greatest one given out. -/
def PrimaryKey.keysLeft (last : PrimaryKey) : Nat := (greatest.toInt - last.toInt).toNat

namespace PrimaryKey

variable {last key : PrimaryKey}

/-- A key that is given out is one key less. -/
theorem keysLeft_of_next? (h : next? last = some key) : keysLeft last = keysLeft key + 1 := by
  have hsucc := toInt_of_next? h
  obtain ⟨hlt, rfl⟩ := next?_eq_some.1 h
  rw [Int64.lt_iff_toInt_lt] at hlt
  unfold keysLeft
  omega

/-- A key can be given out exactly if one is left. -/
theorem next?_isSome : (next? last).isSome = true ↔ 0 < keysLeft last := by
  have hlt : last < greatest ↔ 0 < keysLeft last := by
    rw [Int64.lt_iff_toInt_lt]
    unfold keysLeft
    omega
  rw [← hlt, next?]
  split <;> simp_all

end PrimaryKey

namespace Vault

@[simp] theorem lastKey_remove (v : Vault) (key : PrimaryKey) : (v.remove key).2.lastKey = v.lastKey := by
  unfold remove
  split <;> rfl

@[simp] theorem lastKey_makeRoom (replacing : Bool) (v : Vault) (r : Record) :
    (v.makeRoom replacing r).2.lastKey = v.lastKey := by
  unfold makeRoom clear
  split
  · split
    · rfl
    · exact lastKey_remove v _
  · rfl

/-- **What an addition reports.** Behind the removals that make room comes the new record, under the key
    that follows the greatest one given out. -/
theorem added_of_edit {replacing : Bool} {v v' : Vault} {r : Record} {cs : List LocalChange}
    (h : v.edit replacing (.add r) = some (cs, v')) :
    ∃ removed key, cs = removed ++ [⟨.add, key, r⟩] ∧ (∀ c ∈ removed, c.kind = .remove) ∧
      PrimaryKey.next? v.lastKey = some key ∧ v'.lastKey = key := by
  obtain ⟨⟨added, w⟩, hadd, he⟩ := Option.map_eq_some_iff.1 h
  obtain ⟨key, hkey, hw⟩ := Option.map_eq_some_iff.1 hadd
  rw [lastKey_makeRoom] at hkey
  cases he
  cases hw
  exact ⟨_, key, rfl, kind_of_makeRoom, hkey, rfl⟩

@[simp] theorem lastKey_updateAt (v : Vault) (key : PrimaryKey) (r : Record) :
    (v.updateAt key r).2.lastKey = v.lastKey := by
  unfold updateAt
  split
  · rfl
  · split <;> rfl

/-- An edit that adds no record gives out no key. -/
theorem lastKey_of_edit {replacing : Bool} {v v' : Vault} {e : Edit} {cs : List LocalChange}
    (h : v.edit replacing e = some (cs, v')) (he : ∀ r, e ≠ .add r) : v'.lastKey = v.lastKey := by
  cases e with
  | add r => exact absurd rfl (he r)
  | update r =>
    rw [edit] at h
    split at h
    · obtain ⟨-, rfl⟩ := Prod.mk.inj (Option.some.inj h)
      rfl
    · obtain ⟨-, rfl⟩ := Prod.mk.inj (Option.some.inj h)
      rfl
  | updateAt key r =>
    rw [← lastKey_updateAt v key r, show v.updateAt key r = (cs, v') from Option.some.inj h]
  | remove key => rw [← lastKey_remove v key, show v.remove key = (cs, v') from Option.some.inj h]

/-- **An edit has a result, unless it adds a record and no key is left.** -/
theorem edit_isSome {replacing : Bool} {v : Vault} {e : Edit} :
    (v.edit replacing e).isSome = true ↔ ∀ r, e = .add r → 0 < v.lastKey.keysLeft := by
  cases e with
  | add r => simp [edit, add, PrimaryKey.next?_isSome]
  | update r =>
    simp only [edit]
    split <;> simp
  | updateAt key r => simp [edit]
  | remove key => simp [edit]

end Vault

/-! ## 2. Legible contents -/

/-- Every row can be read. -/
def RecordTable.Legible (t : RecordTable) : Prop :=
  ∀ key row, t.rows.get? key = some row → row.wideScheme = none

/-- All records can be read. -/
def Content.Legible : Content → Prop
  | .table _ => True
  | .database t => ∃ r, t.records = some r ∧ r.Legible

namespace RecordTable.Legible

variable {t : RecordTable}

/-- A row that can be read is set. -/
theorem insert_row (h : t.Legible) (key last : PrimaryKey) {row : Row} (hrow : row.wideScheme = none) :
    RecordTable.Legible { rows := t.rows.insert key row, lastKey := last } := by
  intro k row' hget
  simp only [SortedMap.get?_insert] at hget
  split at hget
  · cases hget
    exact hrow
  · exact h k row' hget

theorem insert (h : t.Legible) (key last : PrimaryKey) (r : Record) :
    RecordTable.Legible { rows := t.rows.insert key (.ofRecord r), lastKey := last } :=
  h.insert_row key last (Row.wideScheme_ofRecord r)

theorem overwrite (h : t.Legible) (key : PrimaryKey) (r : Record) :
    (t.overwrite key r).Legible := by
  unfold RecordTable.overwrite
  split
  · exact h
  · next row _ => exact h.insert_row key t.lastKey (row.wideScheme_overwrite r)

theorem erase (h : t.Legible) (key : PrimaryKey) :
    RecordTable.Legible { t with rows := t.rows.erase key } := by
  intro k row hrow
  simp only [SortedMap.get?_erase] at hrow
  split at hrow
  · cases hrow
  · exact h k row hrow

theorem read (h : t.Legible) {key : PrimaryKey} {row : Row} (hrow : t.rows.get? key = some row) :
    row.read = .ok row.record := by
  rw [Row.read, h key row hrow]

theorem record? (h : t.Legible) (key : PrimaryKey) :
    t.record? key = .ok ((t.rows.get? key).map Row.record) := by
  unfold RecordTable.record?
  cases hrow : t.rows.get? key with
  | none => rfl
  | some row => simp [h.read hrow, Except.map]

/-- The records of all rows are read. -/
theorem records (h : t.Legible) : ∃ m, t.records = .ok m := by
  have hread : ∀ x ∈ t.rows.toList, x.2.read = .ok x.2.record := fun x hx =>
    h.read (SortedMap.mem_toList_iff.1 hx)
  unfold RecordTable.records
  generalize t.rows.toList = rows at hread
  generalize (∅ : SortedMap PrimaryKey Record) = m
  induction rows generalizing m with
  | nil => exact ⟨m, rfl⟩
  | cons x rows ih =>
    obtain ⟨key, row⟩ := x
    have hrow : row.read = .ok row.record := hread (key, row) List.mem_cons_self
    simp only [List.foldlM_cons, hrow]
    exact ih (fun y hy => hread y (List.mem_cons_of_mem _ hy)) _

end RecordTable.Legible

/-! ## 3. Databases -/

/-- Everything in the database can be read, and records can be written. -/
structure Database.Able (d : Database) : Prop where
  quiet : d.barrier? = none
  legible : ∃ t, d.tables.records = some t ∧ t.Legible

namespace Database

variable {d : Database} {t : RecordTable}

theorem perform_recordTable (ht : d.tables.records = some t) :
    recordTable.perform d = (.ok t, d) := by
  rw [recordTable_perform, ht]

/-- Where all records can be read, the record under a key is. -/
theorem record?_of_legible (h : (Content.database d.tables).Legible) (key : PrimaryKey) :
    (record? key).perform d = (.ok (d.vault.records.get? key), d) := by
  obtain ⟨t, ht, hlegible⟩ := h
  rw [record?, bind_of_ok (perform_recordTable ht), perform_ofExcept, hlegible.record?,
    vault_of_records ht, SortedMap.get?_mapValues]

/-- Where all records can be read, natural keys are found. -/
theorem find?_of_legible (h : (Content.database d.tables).Legible) (n : NaturalKey) :
    (find? n).perform d = (.ok (d.vault.find? n), d) := by
  obtain ⟨t, ht, -⟩ := h
  rw [find?, bind_of_ok (perform_recordTable ht), vault_of_records ht, Vault.find?,
    SortedMap.findKey?_mapValues]
  rfl

/-- Where all records can be read, they are read together. -/
theorem readAll_of_legible (h : (Content.database d.tables).Legible) :
    readAll.perform d = (.ok d.vault.records, d) := by
  obtain ⟨t, ht, hlegible⟩ := h
  obtain ⟨m, hm⟩ := hlegible.records
  rw [readAll, bind_of_ok (perform_recordTable ht), perform_ofExcept, hm, vault_of_records ht,
    Store.records_of_ok hm]

end Database

namespace Database.Able

variable {d : Database} {t : RecordTable} {key : PrimaryKey} {r : Record}

/-- What is written to the table of records is written. -/
theorem write {α : Type} {f : RecordTable → Attempt Database α} (h : d.Able)
    (ht : d.tables.records = some t) :
    (do guardWrite; let t ← Database.recordTable; f t : Attempt Database α).perform d =
      (f t).perform d := by
  have hguard : guardWrite.perform d = (.ok ⟨⟩, d) := by rw [guardWrite_perform, h.quiet]
  rw [bind_of_ok hguard, bind_of_ok (perform_recordTable ht)]

theorem putRecords (h : d.Able) (ht : t.Legible) : (d.putRecords t).Able :=
  ⟨h.quiet, t, rfl, ht⟩

theorem record? (h : d.Able) (key : PrimaryKey) :
    (record? key).perform d = (.ok (d.vault.records.get? key), d) :=
  record?_of_legible h.legible key

theorem find? (h : d.Able) (n : NaturalKey) :
    (find? n).perform d = (.ok (d.vault.find? n), d) :=
  find?_of_legible h.legible n

theorem deleteRow (h : d.Able) (key : PrimaryKey) :
    ∃ d', (deleteRow key).perform d = (.ok (), d') ∧ d'.Able ∧ d'.vault = d.vault.drop key := by
  obtain ⟨t, ht, hlegible⟩ := h.legible
  refine ⟨_, h.write ht, h.putRecords (hlegible.erase key), ?_⟩
  rw [vault_putRecords, vault_of_records ht, Vault.drop, SortedMap.erase_mapValues]

theorem overwriteRow (h : d.Able) (key : PrimaryKey) (r : Record) :
    ∃ d', (overwriteRow key r).perform d = (.ok [⟨.update, key, r⟩], d') ∧ d'.Able := by
  obtain ⟨t, ht, hlegible⟩ := h.legible
  exact ⟨_, h.write ht, h.putRecords (hlegible.overwrite key r)⟩

theorem insertRow (h : d.Able) (r : Record) (hkey : 0 < d.vault.lastKey.keysLeft) :
    ∃ key d', (insertRow r).perform d = (.ok key, d') ∧ d'.Able := by
  obtain ⟨t, ht, hlegible⟩ := h.legible
  rw [vault_of_records ht] at hkey
  obtain ⟨key, hnext⟩ := Option.isSome_iff_exists.1 (PrimaryKey.next?_isSome.2 hkey)
  have hlt : t.lastKey < PrimaryKey.greatest := (PrimaryKey.next?_eq_some.1 hnext).1
  have hable := h.putRecords (hlegible.insert (t.lastKey + 1) (t.lastKey + 1) r)
  refine ⟨t.lastKey + 1, _, (h.write ht).trans ?_, hable⟩
  rw [if_pos hlt]
  rfl

/-- An addition succeeds if a key is left. -/
theorem add (h : d.Able) (r : Record) (hkey : 0 < d.vault.lastKey.keysLeft) :
    ∃ cs d', (add r).perform d = (.ok cs, d') ∧ d'.Able := by
  have hinsert (removed : List LocalChange) {d : Database} (h : d.Able)
      (hkey : 0 < d.vault.lastKey.keysLeft) :
      ∃ cs d', (Database.insertRow r >>= fun key => pure (removed ++ [⟨.add, key, r⟩]) :
        Attempt Database (List LocalChange)).perform d = (.ok cs, d') ∧ d'.Able := by
    obtain ⟨key, d', hinsert, hable⟩ := h.insertRow r hkey
    exact ⟨_, d', bind_of_ok hinsert, hable⟩
  unfold Database.add
  rw [bind_of_ok (h.find? r.naturalKey)]
  cases hfind : d.vault.find? r.naturalKey with
  | none => exact hinsert [] h hkey
  | some old =>
    obtain ⟨record, hrecord, -⟩ := Vault.find?_eq_some hfind
    obtain ⟨w, hdelete, hw, hvault⟩ := h.deleteRow old
    simp only
    rw [bind_of_ok (h.record? old), hrecord]
    simp only
    rw [bind_of_ok hdelete]
    exact hinsert _ hw (by rw [hvault]; exact hkey)

/-- **An edit succeeds if the edit of the vault has a result.** -/
theorem edit (h : d.Able) {e : Edit} (he : (d.vault.edit true e).isSome = true) :
    ∃ cs d', e.onDatabase.perform d = (.ok cs, d') ∧ d'.Able := by
  cases e with
  | add r => exact h.add r (Vault.edit_isSome.1 he r rfl)
  | update r =>
    show ∃ cs d', (Database.update r).perform d = (.ok cs, d') ∧ d'.Able
    unfold Database.update
    rw [bind_of_ok (h.find? r.naturalKey)]
    cases d.vault.find? r.naturalKey with
    | none => exact ⟨_, d, rfl, h⟩
    | some key => exact ⟨_, h.overwriteRow key r⟩
  | updateAt key r =>
    show ∃ cs d', (Database.updateAt key r).perform d = (.ok cs, d') ∧ d'.Able
    unfold Database.updateAt
    rw [bind_of_ok (h.record? key)]
    cases d.vault.records.get? key with
    | none => exact ⟨_, d, rfl, h⟩
    | some old =>
      simp only
      split
      · exact ⟨_, h.overwriteRow key r⟩
      · exact ⟨_, d, rfl, h⟩
  | remove key =>
    show ∃ cs d', (Database.remove key).perform d = (.ok cs, d') ∧ d'.Able
    unfold Database.remove
    rw [bind_of_ok (h.record? key)]
    cases d.vault.records.get? key with
    | none => exact ⟨_, d, rfl, h⟩
    | some old =>
      obtain ⟨w, hdelete, hw, -⟩ := h.deleteRow key
      exact ⟨_, w, bind_of_ok hdelete, hw⟩

end Database.Able

/-! ## 4. Tables -/

/-- **An edit of a table that is not told to fail succeeds if the edit of the vault has a result.** -/
theorem Table.edit_of_quiet {t : Table} {e : Edit} (hq : t.faults = {})
    (he : (t.vault.edit false e).isSome = true) : e.onTable.Succeeds t := by
  have hguard : guardMutation.perform t = (.ok ⟨⟩, t.counted) := by
    rw [guardMutation_perform]
    simp [counted, hq]
  have hguarded {α : Type} {f : Table → Attempt Table α} (hf : (f t.counted).Succeeds t.counted) :
      (guardMutation >>= fun _ => get >>= f).Succeeds t :=
    (succeeds_bind_of_ok hguard).2 ((succeeds_bind_of_ok (perform_get _)).2 hf)
  cases e with
  | add r =>
    have hkey := PrimaryKey.next?_isSome.2 (Vault.edit_isSome.1 he r rfl)
    obtain ⟨key, hkey⟩ := Option.isSome_iff_exists.1 hkey
    have hnext : PrimaryKey.next? t.counted.content.lastKey = some key := hkey
    refine hguarded ?_
    simp only [hnext]
    exact ⟨_, _, rfl⟩
  | update r =>
    refine hguarded ?_
    cases TableContent.find? t.counted.content r.naturalKey <;> exact ⟨_, _, rfl⟩
  | updateAt key r =>
    refine hguarded ?_
    cases t.counted.content.records.get? key with
    | none => exact ⟨_, _, rfl⟩
    | some old =>
      simp only
      split <;> exact ⟨_, _, rfl⟩
  | remove key =>
    refine hguarded ?_
    cases t.counted.content.records.get? key <;> exact ⟨_, _, rfl⟩

/-! ## 5. Stores -/

namespace Store

variable {s s' : Store}

/-- The store is not told to fail, is sound, and can read its records. -/
structure Able (s : Store) : Prop where
  quiet : s.Quiet
  sound : s.content.Sound
  legible : s.content.Legible

theorem Able.database {d : Database} (h : Able (.database d)) : d.Able := ⟨h.quiet.1, h.legible⟩

/-- Only the contents count, as long as the store is not told to fail. -/
theorem Able.of_content (h : s.Able) (hsteady : s.Steady s') (hcontent : s'.content = s.content) :
    s'.Able :=
  ⟨hsteady.quiet h.quiet, hcontent ▸ h.sound, hcontent ▸ h.legible⟩

/-- An edit with a result succeeds, and the records can still be read. -/
theorem Able.edited (h : s.Able) {e : Edit} (he : (s.vault.edit s.replaces e).isSome = true) :
    ∃ cs s', e.attempt.perform s = (.ok cs, s') ∧ s'.content.Legible := by
  rw [Edit.attempt_eq]
  cases s with
  | table t =>
    obtain ⟨cs, t', ht⟩ := Table.edit_of_quiet h.quiet he
    exact ⟨cs, .table t', by simp [either, ht], trivial⟩
  | database d =>
    obtain ⟨cs, d', hd, hable⟩ := h.database.edit he
    exact ⟨cs, .database d', by simp [either, hd], hable.legible⟩

/-- **An edit succeeds exactly if the edit of the vault has a result.** -/
theorem Able.edit_iff (h : s.Able) {e : Edit} :
    e.attempt.Succeeds s ↔ (s.vault.edit s.replaces e).isSome = true := by
  constructor
  · rintro ⟨cs, s', hs⟩
    cases (Store.edited hs).1 with
    | done hedit => exact Option.isSome_iff_exists.2 ⟨_, hedit⟩
  · intro he
    obtain ⟨cs, s', hs, -⟩ := h.edited he
    exact ⟨cs, s', hs⟩

/-- **An edit that succeeds leaves the store able.** -/
theorem Able.edit (h : s.Able) {e : Edit} {cs : List LocalChange}
    (hs : e.attempt.perform s = (.ok cs, s')) : s'.Able := by
  obtain ⟨cs', t, ht, hlegible⟩ := h.edited (h.edit_iff.1 ⟨cs, s', hs⟩)
  obtain rfl : t = s' := (Prod.mk.inj (ht.symm.trans hs)).2
  obtain ⟨hedited, hsteady⟩ := Store.edited hs
  cases hedited with
  | done hedit _ _ hmetadata =>
    refine ⟨hsteady.quiet h.quiet, ⟨?_, ?_⟩, hlegible⟩
    · exact (Vault.steps_of_edit hedit).sound h.sound.vault
    · show t.metadata.Complete
      rw [hmetadata]
      exact h.sound.complete

/-- All records are read. -/
theorem Able.readAll (h : s.Able) : readAll.perform s = (.ok s.vault.records, s) := by
  cases s with
  | table t =>
    have hf : t.faults = {} := h.quiet
    simp [Store.readAll, either, Table.readAll, Table.guardLookup, perform_bind, hf]
    rfl
  | database d =>
    have hread := Database.readAll_of_legible h.legible
    simp [Store.readAll, either, hread]
    rfl

/-- The record under a key is read. -/
theorem Able.record? (h : s.Able) (key : PrimaryKey) :
    (record? key).perform s = (.ok (s.vault.records.get? key), s) := by
  cases s with
  | table t =>
    have hf : t.faults = {} := h.quiet
    simp [Store.record?, either, Table.record?, Table.guardLookup, perform_bind, hf]
    rfl
  | database d =>
    have hread := h.database.record? key
    simp [Store.record?, either, hread]
    rfl

/-- The record with a natural key is found. -/
theorem Able.find? (h : s.Able) (n : NaturalKey) :
    (find? n).perform s = (.ok (s.vault.find? n), s) := by
  cases s with
  | table t =>
    have hf : t.faults = {} := h.quiet
    simp [Store.find?, either, Table.find?, Table.guardLookup, perform_bind, hf]
    rfl
  | database d =>
    have hread := h.database.find? n
    simp [Store.find?, either, hread]
    rfl

/-- Metadata is written, and the store stays able. -/
theorem Able.writeMetadata (h : s.Able) (w : MetadataWrite) :
    ∃ s', (writeMetadata w).perform s = (.ok (), s') ∧ s'.Able := by
  obtain ⟨s', hs⟩ := writeMetadata_of_quiet h.quiet h.sound.complete w
  obtain ⟨hwritten, -, hsteady⟩ := written hs
  cases hwritten with
  | done hmetadata hvault =>
    refine ⟨s', hs, hsteady.quiet h.quiet, ⟨?_, ?_⟩, ?_⟩
    · show s'.vault.Sound
      rw [hvault]
      exact h.sound.vault
    · show s'.metadata.Complete
      rw [hmetadata]
      exact h.sound.complete.apply w
    · rcases either_cases hs with ⟨t, t', rfl, rfl, -⟩ | ⟨d, d', rfl, rfl, hd⟩
      · trivial
      · show ∃ r, d'.tables.records = some r ∧ r.Legible
        rw [records_writeMetadata hd]
        exact h.legible

theorem Able.begin (h : s.Able) (hclosed : s.saved = none) :
    ∃ s', begin.perform s = (.ok (), s') ∧ s'.Able := by
  obtain ⟨s', hs⟩ := begin_of_quiet h.quiet hclosed
  obtain ⟨-, -, hcontent, hsteady⟩ := begin_ok hs
  exact ⟨s', hs, h.of_content hsteady hcontent⟩

end Store

end CredentialSync
