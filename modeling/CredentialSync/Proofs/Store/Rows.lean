import CredentialSync.Proofs.Store.Able

/-!
# Rows

A store reads its records row by row, in key order, and the first row that cannot be read is the
error: `Row.readAll` is what this gives for a list of rows. `Store.rows` are the rows that a store
shows, and both ways to read it go over them: `readAll_rows` reads all records at once,
`record?_rows` the one under a key.

Behind an addition the row under the greatest key given out is the one of the added record
(`Store.newest_of_add`), and it can be read whatever becomes of the others (`Store.record?_of_newest`).
-/

namespace CredentialSync

open Attempt

/-! ## 1. Reading rows -/

/-- The records of rows, in order; the first row that cannot be read is the error. -/
def Row.readAll : List (PrimaryKey × Row) → Except SyncError (List (PrimaryKey × Record))
  | [] => .ok []
  | (key, row) :: rows =>
    row.read.bind fun r => (readAll rows).map fun rs => (key, r) :: rs

namespace Row

variable {rows : List (PrimaryKey × Row)}

/-- Rows that can all be read give their records. -/
theorem readAll_of_forall (h : ∀ x ∈ rows, x.2.wideScheme = none) :
    readAll rows = .ok (rows.map fun x => (x.1, x.2.record)) := by
  induction rows with
  | nil => rfl
  | cons x rows ih =>
    obtain ⟨key, row⟩ := x
    have hrow : row.read = .ok row.record := by
      rw [Row.read, h (key, row) List.mem_cons_self]
    rw [readAll, hrow, ih fun y hy => h y (List.mem_cons_of_mem _ hy)]
    rfl

/-- Rows are read together only if each of them can be read. -/
theorem forall_of_readAll {rs : List (PrimaryKey × Record)} (h : readAll rows = .ok rs) :
    ∀ x ∈ rows, x.2.wideScheme = none := by
  induction rows generalizing rs with
  | nil => exact List.forall_mem_nil _
  | cons x rows ih =>
    obtain ⟨key, row⟩ := x
    rw [readAll] at h
    cases hwide : row.wideScheme with
    | some code =>
      rw [Row.read, hwide] at h
      cases h
    | none =>
      cases hrest : readAll rows with
      | error e =>
        rw [Row.read, hwide, hrest] at h
        cases h
      | ok rest => exact List.forall_mem_cons.2 ⟨hwide, ih hrest⟩

/-- What is read are the records of the rows. -/
theorem of_readAll {rs : List (PrimaryKey × Record)} (h : readAll rows = .ok rs) :
    rs = rows.map fun x => (x.1, x.2.record) :=
  Except.ok.inj (h.symm.trans (readAll_of_forall (forall_of_readAll h)))

end Row

/-- A table reads its rows in key order. -/
theorem RecordTable.records_toList (t : RecordTable) :
    t.records.map (·.toList) = Row.readAll t.rows.toList := by
  have hfold : ∀ (rows : List (PrimaryKey × Row)) (m : SortedMap PrimaryKey Record),
      rows.foldlM (fun m (x : PrimaryKey × Row) => x.2.read.map fun r => m.insert x.1 r) m =
        (Row.readAll rows).map fun rs => rs.foldl (fun m x => m.insert x.1 x.2) m := by
    intro rows
    induction rows with
    | nil => exact fun m => rfl
    | cons x rows ih =>
      intro m
      rw [List.foldlM_cons, Row.readAll]
      cases x.2.read with
      | error e => rfl
      | ok r =>
        refine (ih _).trans ?_
        cases Row.readAll rows <;> rfl
  have hrecords : t.records = _ := hfold t.rows.toList ∅
  cases hread : Row.readAll t.rows.toList with
  | error e => rw [hrecords, hread]; rfl
  | ok rs =>
    rw [hread] at hrecords
    have hall : rs.foldl (fun m x => m.insert x.1 x.2) ∅ = t.rows.mapValues Row.record :=
      Store.records_of_ok hrecords
    rw [hrecords, Except.map, hall, Row.of_readAll hread]
    rfl

namespace Store

/-! ## 2. What a store shows -/

/-- The rows that a store shows, or why it shows none. -/
def rows : Store → Except SyncError (SortedMap PrimaryKey Row)
  | .table t =>
    if t.faults.lookups then .error (.storeFailure "injected lookup failure")
    else .ok (t.content.records.mapValues Row.ofRecord)
  | .database d =>
    match d.tables.records with
    | none => .error (DatabaseFault.noSuchTable "records").store
    | some t => .ok t.rows

/-- The rows of a table can all be read. -/
theorem readAll_table (m : SortedMap PrimaryKey Record) :
    Row.readAll (m.mapValues Row.ofRecord).toList = .ok m.toList := by
  rw [Row.readAll_of_forall]
  · simp only [SortedMap.mapValues, List.map_map, Function.comp_def, Row.record_ofRecord, List.map_id']
  · intro x hx
    obtain ⟨y, -, rfl⟩ := List.mem_map.1 hx
    exact Row.wideScheme_ofRecord y.2

/-- **All records are read by going over the rows.** -/
theorem readAll_rows (s : Store) :
    (readAll.perform s).1.map (·.toList) = s.rows.bind fun rows => Row.readAll rows.toList := by
  cases s with
  | table t =>
    by_cases hl : t.faults.lookups = true
    · simp [readAll, either, Table.readAll, Table.guardLookup, perform_bind, rows, hl, Except.map,
        Except.bind]
    · simp [readAll, either, Table.readAll, Table.guardLookup, perform_bind, rows, hl, Except.map,
        Except.bind, readAll_table]
  | database d =>
    show ((Database.readAll.perform d).1.map (·.toList)) = _
    rw [Database.readAll, perform_bind, Database.recordTable_perform, rows]
    cases d.tables.records with
    | none => rfl
    | some t =>
      simp only [perform_ofExcept]
      exact t.records_toList

/-- A store that reads all its records has no record that cannot be read. -/
theorem legible_of_readAll {s s' : Store} {records : SortedMap PrimaryKey Record}
    (h : readAll.perform s = (.ok records, s')) : s.content.Legible := by
  have hread := s.readAll_rows
  rw [h] at hread
  cases s with
  | table t => trivial
  | database d =>
    cases ht : d.tables.records with
    | none =>
      simp only [rows, ht] at hread
      cases hread
    | some t =>
      simp only [rows, ht] at hread
      refine ⟨t, ht, fun key row hrow => ?_⟩
      exact Row.forall_of_readAll hread.symm (key, row) (SortedMap.mem_toList_iff.2 hrow)

/-- **The record under a key is that of the row under it.** -/
theorem record?_rows {s : Store} {rows : SortedMap PrimaryKey Row} (hs : s.rows = .ok rows)
    {key : PrimaryKey} {row : Row} (hrow : rows.get? key = some row) :
    (record? key).perform s = (row.read.map some, s) := by
  cases s with
  | table t =>
    by_cases hl : t.faults.lookups = true
    · simp [Store.rows, hl] at hs
    · simp only [Store.rows, hl, Bool.false_eq_true, if_false, Except.ok.injEq] at hs
      rw [← hs, SortedMap.get?_mapValues] at hrow
      obtain ⟨r, hr, rfl⟩ := Option.map_eq_some_iff.1 hrow
      simp [record?, either, Table.record?, Table.guardLookup, perform_bind, hl, hr,
        Row.read_ofRecord, Except.map]
  | database d =>
    cases ht : d.tables.records with
    | none => simp [Store.rows, ht] at hs
    | some t =>
      simp only [Store.rows, ht, Except.ok.injEq] at hs
      rw [← hs] at hrow
      have hread : (Database.record? key).perform d = (row.read.map some, d) := by
        rw [Database.record?, perform_bind, Database.recordTable_perform, ht]
        simp only [perform_ofExcept, RecordTable.record?, hrow]
      simp [record?, either, hread]

end Store

/-! ## 3. The newest row -/

namespace Content

/-- The rows of a content, with the greatest key given out. A table keeps records as they would be
    inserted into a database. -/
def recordTable : Content → Option RecordTable
  | .table c => some { rows := c.records.mapValues Row.ofRecord, lastKey := c.lastKey }
  | .database t => t.records

theorem lastKey_recordTable {c : Content} {t : RecordTable} (h : c.recordTable = some t) :
    c.vault.lastKey = t.lastKey := by
  cases c with
  | table c =>
    cases h
    rfl
  | database tables =>
    have ht : tables.records = some t := h
    rw [vault, ht]

/-- The row under the greatest key given out is the one inserted for a record. -/
def Newest (c : Content) (r : Record) : Prop :=
  ∃ t, c.recordTable = some t ∧ t.rows.get? t.lastKey = some (.ofRecord r)

theorem Newest.congr {c c' : Content} {r : Record} (h : c.Newest r)
    (hrows : c'.recordTable = c.recordTable) : c'.Newest r := by
  rwa [Newest, hrows]

end Content

/-- An added record is under the greatest key given out. -/
theorem Vault.get?_lastKey_of_add {replacing : Bool} {v v' : Vault} {r : Record}
    {cs : List LocalChange} (h : v.edit replacing (.add r) = some (cs, v')) :
    v'.records.get? v'.lastKey = some r := by
  obtain ⟨⟨added, w⟩, hadd, he⟩ := Option.map_eq_some_iff.1 h
  obtain ⟨key, -, hw⟩ := Option.map_eq_some_iff.1 hadd
  cases he
  cases hw
  rw [SortedMap.get?_insert, if_pos rfl]

/-- What is inserted is the newest row. -/
theorem Database.newest_of_insertRow {d d' : Database} {r : Record} {removed cs : List LocalChange}
    (h : (insertRow r >>= fun key => pure (removed ++ [⟨.add, key, r⟩]) :
      Attempt Database (List LocalChange)).perform d = (.ok cs, d')) :
    (Content.database d'.tables).Newest r := by
  obtain ⟨key, w, hinsert, hrest⟩ := ok_of_bind h
  cases hrest
  rcases guarded hinsert with ⟨_, herror, -⟩ | ⟨t, -, -, hput⟩
  · cases herror
  · split at hput
    · cases hput
      exact ⟨_, rfl, by rw [SortedMap.get?_insert, if_pos rfl]⟩
    · cases hput

/-- An addition to a database ends with an insertion, whether or not it has made room. -/
theorem Database.newest_of_add {d d' : Database} {r : Record} {cs : List LocalChange}
    (h : (add r).perform d = (.ok cs, d')) : (Content.database d'.tables).Newest r := by
  obtain ⟨key?, _, -, h⟩ := ok_of_bind h
  cases key? with
  | none => exact newest_of_insertRow h
  | some old =>
    obtain ⟨record?, _, -, h⟩ := ok_of_bind h
    cases record? with
    | none => exact newest_of_insertRow h
    | some record =>
      obtain ⟨_, _, -, h⟩ := ok_of_bind h
      exact newest_of_insertRow h

namespace Store

variable {s s' : Store} {r : Record}

/-- **What a store has added is its newest row.** -/
theorem newest_of_add {cs : List LocalChange} (h : (add r).perform s = (.ok cs, s')) :
    s'.content.Newest r := by
  rcases either_cases h with ⟨t, t', rfl, rfl, ht⟩ | ⟨d, d', rfl, rfl, hd⟩
  · obtain ⟨-, ⟨_, herror, -⟩ | ⟨ds, hedit, -⟩⟩ := Table.add_outcome ht
    · cases herror
    · refine ⟨_, rfl, ?_⟩
      rw [SortedMap.get?_mapValues]
      exact congrArg (Option.map Row.ofRecord) (Vault.get?_lastKey_of_add hedit)
  · exact Database.newest_of_add hd

/-- Metadata is written beside the rows. -/
theorem recordTable_writeMetadata {w : MetadataWrite} {res : Except SyncError Unit}
    (h : (writeMetadata w).perform s = (res, s')) :
    s'.content.recordTable = s.content.recordTable := by
  rcases either_cases h with ⟨t, t', rfl, rfl, ht⟩ | ⟨d, d', rfl, rfl, hd⟩
  · obtain ⟨-, -, ⟨-, hc⟩ | ⟨_, -, hc⟩⟩ := table_writeMetadata_cases ht
    · simp only [content, hc, Content.recordTable]
    · simp only [content, hc]
  · exact records_writeMetadata hd

/-- **The newest row is read as the record that it was inserted for.** Rows that cannot be read are not
    in its way. -/
theorem record?_of_newest (hq : s.Quiet) (h : s.content.Newest r) :
    (record? s.vault.lastKey).perform s = (.ok (some r), s) := by
  obtain ⟨t, ht, hrow⟩ := h
  have hrows : s.rows = .ok t.rows := by
    cases s with
    | table tbl =>
      have hf : tbl.faults = {} := hq
      cases ht
      rw [rows, hf]
      rfl
    | database d =>
      have ht : d.tables.records = some t := ht
      rw [rows, ht]
  have hlast : s.vault.lastKey = t.lastKey := Content.lastKey_recordTable ht
  rw [hlast, record?_rows hrows hrow, Row.read_ofRecord]
  rfl

end Store

end CredentialSync
