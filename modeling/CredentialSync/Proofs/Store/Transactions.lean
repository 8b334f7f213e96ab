import CredentialSync.Proofs.Store.Edits

/-!
# Transactions and metadata of stores

* Beginning a transaction saves the contents (`begin_ok`), committing drops the saved contents
  (`commit_ok`), and a rollback returns to them (`rollback_perform`). One that fails changes
  nothing.
* Writing metadata does to the stored metadata what `StoredMetadata.apply` says, or changes no
  contents (`written`).
* Reading changes nothing, and what is read are the contents of the vault (`ok_of_readAll`,
  `ok_of_record?`).

A store that is not told to fail can begin a transaction, commit it and write metadata
(`begin_of_quiet`, `commit_of_quiet`, `writeMetadata_of_quiet`).
-/

namespace CredentialSync

open Attempt

/-- The tables of the metadata exist. -/
def StoredMetadata.Complete : StoredMetadata → Prop
  | .values _ => True
  | .bytes entries state => entries.isSome = true ∧ state.isSome = true

theorem StoredMetadata.Complete.apply {m : StoredMetadata} (h : m.Complete) (w : MetadataWrite) :
    (m.apply w).Complete := by
  cases m with
  | values b => trivial
  | bytes entries state =>
    cases w <;> simpa [Complete, StoredMetadata.apply] using h

theorem Database.barrier?_eq_none {d : Database} :
    d.barrier? = none ↔ d.readOnly = false ∧ d.locked = false := by
  unfold barrier?
  cases d.readOnly <;> cases d.locked <;> simp

namespace Store

variable {s s' : Store} {e : SyncError}

theorem either_cases {α : Type} {a : Attempt Table α} {b : Attempt Database α}
    {res : Except SyncError α} (h : (either a b).perform s = (res, s')) :
    (∃ t t', s = .table t ∧ s' = .table t' ∧ a.perform t = (res, t')) ∨
      ∃ d d', s = .database d ∧ s' = .database d' ∧ b.perform d = (res, d') := by
  cases s with
  | table t =>
    cases h
    exact .inl ⟨t, _, rfl, rfl, rfl⟩
  | database d =>
    cases h
    exact .inr ⟨d, _, rfl, rfl, rfl⟩

/-- An attempt that only looks, on either store. -/
theorem reads_either {α : Type} {a : Attempt Table α} {b : Attempt Database α} (ha : a.Reads)
    (hb : b.Reads) : (either a b).Reads := fun s => by
  cases s with
  | table t => exact congrArg Store.table (ha t)
  | database d => exact congrArg Store.database (hb d)

/-! ## 1. Transactions -/

theorem steady_table {t t' : Table} (h : t'.faults = t.faults) : Steady (.table t) (.table t') := by
  refine ⟨rfl, fun hq => ?_, fun hr => ?_⟩
  · exact h.trans hq
  · show t'.faults.rollbacks = false
    rw [h]
    exact hr

theorem table_begin_cases {t t' : Table} {res : Except SyncError Unit}
    (h : Table.begin.perform t = (res, t')) :
    (res = .ok () ∧ t.saved = none ∧ t'.saved = some t.content ∧ t'.content = t.content ∧
      t'.faults = t.faults) ∨ ∃ err, res = .error err ∧ t' = t := by
  unfold Table.begin at h
  rw [perform_bind, perform_get] at h
  cases hb : t.faults.begins <;> cases hs : t.saved <;> simp [hb, hs] at h <;>
    obtain ⟨rfl, rfl⟩ := h
  · exact .inl ⟨rfl, rfl, rfl, rfl, rfl⟩
  all_goals exact .inr ⟨_, rfl, rfl⟩

theorem database_begin_cases {d d' : Database} {res : Except SyncError Unit}
    (h : Database.begin.perform d = (res, d')) :
    (res = .ok () ∧ d.saved = none ∧ d' = { d with saved := some d.tables }) ∨
      ∃ err, res = .error err ∧ d' = d := by
  unfold Database.begin at h
  rw [perform_bind, perform_get] at h
  cases hs : d.saved <;> cases hl : (d.locked && !d.readOnly) <;>
    simp [hl, hs] at h <;> obtain ⟨rfl, rfl⟩ := h
  · exact .inl ⟨rfl, rfl, rfl⟩
  all_goals exact .inr ⟨_, rfl, rfl⟩

/-- **Beginning a transaction saves the contents.** No other transaction is open then. -/
theorem begin_ok (h : begin.perform s = (.ok (), s')) :
    s.saved = none ∧ s'.saved = some s.content ∧ s'.content = s.content ∧ Steady s s' := by
  rcases either_cases h with ⟨t, t', rfl, rfl, ht⟩ | ⟨d, d', rfl, rfl, hd⟩
  · rcases table_begin_cases ht with ⟨-, hs, hs', hc, hf⟩ | ⟨_, hres, _⟩
    · exact ⟨by simp [saved, hs], by simp [saved, hs', content], by simp [content, hc],
        steady_table hf⟩
    · cases hres
  · rcases database_begin_cases hd with ⟨-, hs, rfl⟩ | ⟨_, hres, _⟩
    · exact ⟨by simp [saved, hs], by simp [saved, content], rfl, steady_database rfl rfl rfl⟩
    · cases hres

/-- A transaction that cannot begin changes nothing. -/
theorem begin_error (h : begin.perform s = (.error e, s')) : s' = s := by
  rcases either_cases h with ⟨t, t', rfl, rfl, ht⟩ | ⟨d, d', rfl, rfl, hd⟩
  · rcases table_begin_cases ht with ⟨hres, _⟩ | ⟨_, _, rfl⟩
    · cases hres
    · rfl
  · rcases database_begin_cases hd with ⟨hres, _⟩ | ⟨_, _, rfl⟩
    · cases hres
    · rfl

theorem begin_of_quiet (hq : s.Quiet) (hs : s.saved = none) :
    ∃ s', begin.perform s = (.ok (), s') := by
  cases s with
  | table t =>
    have hf : t.faults = {} := hq
    have hs : t.saved = none := by simpa [saved] using hs
    refine ⟨.table { t with saved := some t.content, journal := t.journal ++ [.began] }, ?_⟩
    simp [begin, either, Table.begin, perform_bind, hf, hs]
  | database d =>
    have hs : d.saved = none := by simpa [saved] using hs
    obtain ⟨-, hl⟩ := Database.barrier?_eq_none.1 hq.1
    refine ⟨.database { d with saved := some d.tables }, ?_⟩
    simp [begin, either, Database.begin, perform_bind, hl, hs]

theorem table_commit_cases {t t' : Table} {res : Except SyncError Unit}
    (h : Table.commit.perform t = (res, t')) :
    (res = .ok () ∧ t'.saved = none ∧ t'.content = t.content ∧ t'.faults = t.faults) ∨
      ∃ err, res = .error err ∧ t' = t := by
  unfold Table.commit at h
  rw [perform_bind, perform_get] at h
  cases hc : t.faults.commits <;> simp [hc] at h <;> obtain ⟨rfl, rfl⟩ := h
  · exact .inl ⟨rfl, rfl, rfl, rfl⟩
  · exact .inr ⟨_, rfl, rfl⟩

theorem database_commit_cases {d d' : Database} {res : Except SyncError Unit}
    (h : Database.commit.perform d = (res, d')) :
    (res = .ok () ∧ d' = { d with saved := none }) ∨ ∃ err, res = .error err ∧ d' = d := by
  unfold Database.commit at h
  rw [perform_bind, perform_get] at h
  cases hs : d.saved <;> cases hb : (d.busy && !d.readOnly) <;> simp [hs, hb] at h <;>
    obtain ⟨rfl, rfl⟩ := h
  · exact .inr ⟨_, rfl, rfl⟩
  · exact .inr ⟨_, rfl, rfl⟩
  · exact .inl ⟨rfl, rfl⟩
  · exact .inr ⟨_, rfl, rfl⟩

/-- **A commit keeps the contents and drops the saved ones.** -/
theorem commit_ok (h : commit.perform s = (.ok (), s')) :
    s'.content = s.content ∧ s'.saved = none ∧ Steady s s' := by
  rcases either_cases h with ⟨t, t', rfl, rfl, ht⟩ | ⟨d, d', rfl, rfl, hd⟩
  · rcases table_commit_cases ht with ⟨-, hs, hc, hf⟩ | ⟨_, hres, _⟩
    · exact ⟨by simp [content, hc], by simp [saved, hs], steady_table hf⟩
    · cases hres
  · rcases database_commit_cases hd with ⟨-, rfl⟩ | ⟨_, hres, _⟩
    · exact ⟨rfl, rfl, steady_database rfl rfl rfl⟩
    · cases hres

/-- A commit that fails changes nothing. -/
theorem commit_error (h : commit.perform s = (.error e, s')) : s' = s := by
  rcases either_cases h with ⟨t, t', rfl, rfl, ht⟩ | ⟨d, d', rfl, rfl, hd⟩
  · rcases table_commit_cases ht with ⟨hres, _⟩ | ⟨_, _, rfl⟩
    · cases hres
    · rfl
  · rcases database_commit_cases hd with ⟨hres, _⟩ | ⟨_, _, rfl⟩
    · cases hres
    · rfl

theorem commit_of_quiet (hq : s.Quiet) {c : Content} (hs : s.saved = some c) :
    ∃ s', commit.perform s = (.ok (), s') := by
  cases s with
  | table t =>
    have hf : t.faults = {} := hq
    refine ⟨.table { t with saved := none, journal := t.journal ++ [.committed] }, ?_⟩
    simp [commit, either, Table.commit, perform_bind, hf]
  | database d =>
    have hs : d.saved ≠ none := fun hd => by simp [saved, hd] at hs
    refine ⟨.database { d with saved := none }, ?_⟩
    simp [commit, either, Database.commit, perform_bind, hs, hq.2]

/-- A database commits only a transaction that is open. -/
theorem saved_of_commit (hreplaces : s.replaces = true) (h : commit.perform s = (.ok (), s')) :
    s.saved ≠ none := by
  intro hsaved
  cases s with
  | table t => cases hreplaces
  | database d =>
    have hs : d.saved = none := by simpa [saved] using hsaved
    simp [commit, either, Database.commit, perform_bind, hs] at h

/-- **A rollback returns to the saved contents.** -/
theorem rollback_perform (hr : s.CanRollBack) :
    ∃ s', rollback.perform s = (.ok (), s') ∧ s'.content = s.saved.getD s.content ∧
      s'.saved = none ∧ Steady s s' := by
  cases s with
  | table t =>
    have hf : t.faults.rollbacks = false := hr
    refine ⟨.table { t with
      content := t.saved.getD t.content, saved := none, journal := t.journal ++ [.rolledBack] }, ?_,
      ?_, rfl, steady_table rfl⟩
    · simp [rollback, either, Table.rollback, perform_bind, hf]
    · cases hs : t.saved <;> simp [content, saved, hs]
  | database d =>
    refine ⟨.database d.lose, rfl, ?_, rfl, steady_database rfl rfl rfl⟩
    cases hs : d.saved <;> simp [content, saved, hs, Database.lose]

/-! ## 2. Metadata -/

/-- How a write to the metadata ends. -/
inductive Written (s : Store) (w : MetadataWrite) : Except SyncError Unit → Store → Prop where
  | done {s' : Store} (hmetadata : s'.metadata = s.metadata.apply w) (hvault : s'.vault = s.vault) :
      Written s w (.ok ()) s'
  | failed {err : SyncError} {s' : Store} (hcontent : s'.content = s.content) :
      Written s w (.error err) s'

theorem changeEntries_cases {d d' : Database}
    {f : List (StorageKey × List UInt8) → List (StorageKey × List UInt8)}
    {res : Except SyncError Unit} (h : (Database.changeEntries f).perform d = (res, d')) :
    (res = .ok () ∧ d' = { d with tables :=
      { d.tables with entityMetadata := d.tables.entityMetadata.map f } }) ∨
      ∃ err, res = .error err ∧ d' = d := by
  unfold Database.changeEntries at h
  rw [perform_bind, perform_get] at h
  cases ht : d.tables.entityMetadata <;> cases hb : d.barrier? <;> simp [ht, hb] at h <;>
    obtain ⟨rfl, rfl⟩ := h
  · exact .inr ⟨_, rfl, rfl⟩
  · exact .inr ⟨_, rfl, rfl⟩
  · exact .inl ⟨rfl, rfl⟩
  · exact .inr ⟨_, rfl, rfl⟩

theorem changeState_cases {d d' : Database} {bytes : Option (List UInt8)}
    {res : Except SyncError Unit} (h : (Database.changeState bytes).perform d = (res, d')) :
    (res = .ok () ∧ d' = { d with tables :=
      { d.tables with modelState := d.tables.modelState.map fun _ => bytes } }) ∨
      ∃ err, res = .error err ∧ d' = d := by
  unfold Database.changeState at h
  rw [perform_bind, perform_get] at h
  cases ht : d.tables.modelState <;> cases hb : d.barrier? <;> simp [ht, hb] at h <;>
    obtain ⟨rfl, rfl⟩ := h
  · exact .inr ⟨_, rfl, rfl⟩
  · exact .inr ⟨_, rfl, rfl⟩
  · exact .inl ⟨rfl, rfl⟩
  · exact .inr ⟨_, rfl, rfl⟩

theorem database_writeMetadata_cases {d d' : Database} {w : MetadataWrite}
    {res : Except SyncError Unit} (h : (Database.writeMetadata w).perform d = (res, d')) :
    (res = .ok () ∧ (Content.database d'.tables).metadata =
        (Content.database d.tables).metadata.apply w ∧
      d'.vault = d.vault ∧ d'.saved = d.saved ∧ d'.locked = d.locked ∧ d'.readOnly = d.readOnly ∧
      d'.busy = d.busy) ∨
      ∃ err, res = .error err ∧ d' = d := by
  cases w with
  | setState state | clearState =>
    rcases changeState_cases h with ⟨rfl, rfl⟩ | hfail
    · exact .inl ⟨rfl, rfl, rfl, rfl, rfl, rfl, rfl⟩
    · exact .inr hfail
  | set key m | clear key =>
    rcases changeEntries_cases h with ⟨rfl, rfl⟩ | hfail
    · exact .inl ⟨rfl, rfl, rfl, rfl, rfl, rfl, rfl⟩
    · exact .inr hfail

/-- Metadata is written beside the records. -/
theorem records_writeMetadata {d d' : Database} {w : MetadataWrite} {res : Except SyncError Unit}
    (h : (Database.writeMetadata w).perform d = (res, d')) : d'.tables.records = d.tables.records := by
  cases w with
  | setState state | clearState => rcases changeState_cases h with ⟨-, rfl⟩ | ⟨_, -, rfl⟩ <;> rfl
  | set key m | clear key => rcases changeEntries_cases h with ⟨-, rfl⟩ | ⟨_, -, rfl⟩ <;> rfl

theorem table_writeMetadata_cases {t t' : Table} {w : MetadataWrite} {res : Except SyncError Unit}
    (h : (Table.writeMetadata w).perform t = (res, t')) :
    t'.saved = t.saved ∧ t'.faults = t.faults ∧
      ((res = .ok () ∧ t'.content = { t.content with metadata := t.content.metadata.apply w }) ∨
        ∃ err, res = .error err ∧ t'.content = t.content) := by
  unfold Table.writeMetadata at h
  rw [perform_bind, perform_modify] at h
  cases hf : t.faults.metadataWrites <;> simp [hf, perform_bind] at h <;> obtain ⟨rfl, rfl⟩ := h
  · exact ⟨rfl, rfl, .inl ⟨rfl, rfl⟩⟩
  · exact ⟨rfl, rfl, .inr ⟨_, rfl, rfl⟩⟩

/-- **A write to the metadata changes the stored metadata, or no contents at all.** -/
theorem written {w : MetadataWrite} {res : Except SyncError Unit}
    (h : (writeMetadata w).perform s = (res, s')) :
    Written s w res s' ∧ s'.saved = s.saved ∧ Steady s s' := by
  rcases either_cases h with ⟨t, t', rfl, rfl, ht⟩ | ⟨d, d', rfl, rfl, hd⟩
  · obtain ⟨hs, hf, ⟨rfl, hc⟩ | ⟨err, rfl, hc⟩⟩ := table_writeMetadata_cases ht
    · refine ⟨.done ?_ ?_, congrArg (Option.map _) hs, steady_table hf⟩
      · simp [metadata, content, Content.metadata, hc, StoredMetadata.apply]
      · simp [vault, content, Content.vault, hc]
    · exact ⟨.failed (congrArg Content.table hc), congrArg (Option.map _) hs, steady_table hf⟩
  · rcases database_writeMetadata_cases hd with ⟨rfl, hm, hv, hs, hl, hro, hb⟩ | ⟨err, rfl, rfl⟩
    · exact ⟨.done hm hv, congrArg (Option.map _) hs, steady_database hl hro hb⟩
    · exact ⟨.failed rfl, rfl, .refl _⟩

theorem writeMetadata_of_quiet (hq : s.Quiet) (hc : s.metadata.Complete) (w : MetadataWrite) :
    ∃ s', (writeMetadata w).perform s = (.ok (), s') := by
  cases s with
  | table t =>
    have hf : t.faults = {} := hq
    refine ⟨_, Prod.ext ?_ rfl⟩
    simp [writeMetadata, either, Table.writeMetadata, perform_bind, hf]
  | database d =>
    have hb : d.barrier? = none := hq.1
    obtain ⟨he, hs⟩ := hc
    obtain ⟨entries, he⟩ := Option.isSome_iff_exists.1 he
    obtain ⟨state, hs⟩ := Option.isSome_iff_exists.1 hs
    refine ⟨_, Prod.ext ?_ rfl⟩
    cases w <;>
      simp [writeMetadata, either, Database.writeMetadata, Database.changeEntries,
        Database.changeState, perform_bind, hb, he, hs]

/-! ## 3. Reading -/

theorem reads_guardLookup : Table.guardLookup.Reads := fun t => by
  unfold Table.guardLookup
  rw [perform_bind, perform_get]
  cases h : t.faults.lookups <;> simp [h]

theorem reads_readAll : readAll.Reads :=
  reads_either (reads_guardLookup.bind fun _ => Reads.get.bind fun _ => .pure _)
    Database.reads_readAll

theorem reads_record? (key : PrimaryKey) : (record? key).Reads :=
  reads_either (reads_guardLookup.bind fun _ => Reads.get.bind fun _ => .pure _)
    (Database.reads_record? key)

theorem reads_find? (key : NaturalKey) : (find? key).Reads :=
  reads_either (reads_guardLookup.bind fun _ => Reads.get.bind fun _ => .pure _)
    (Database.reads_find? key)

theorem reads_unreadable {α : Type} (r : Except Blob.Fault α) : (Database.unreadable r).Reads := by
  cases r with
  | ok a => exact .pure a
  | error fault => exact .throw _

theorem reads_database_readMetadata : Database.readMetadata.Reads := by
  refine Reads.get.bind fun d => ?_
  generalize d.tables = tables
  obtain ⟨versions, records, _ | entries, _ | _ | bytes⟩ := tables
  · exact .throw _
  · exact (Reads.pure _).bind fun _ => .throw _
  · exact (reads_unreadable _).bind fun _ => .throw _
  · exact .throw _
  · exact (Reads.pure _).bind fun _ => (reads_unreadable _).bind fun _ => .pure _
  · exact (reads_unreadable _).bind fun _ => (reads_unreadable _).bind fun _ => .pure _

theorem reads_readMetadata : readMetadata.Reads := by
  refine reads_either (fun t => ?_) reads_database_readMetadata
  unfold Table.readMetadata
  rw [perform_bind, perform_get]
  cases h : t.faults.metadataReads <;> simp [h]

/-- Reading rows one by one onto a map. -/
theorem get?_of_readRows {rows : List (PrimaryKey × Row)} {m m' : SortedMap PrimaryKey Record}
    (hnodup : (rows.map Prod.fst).Nodup)
    (h : rows.foldlM (fun m (x : PrimaryKey × Row) => x.2.read.map fun r => m.insert x.1 r) m =
      .ok m') (key : PrimaryKey) :
    m'.get? key = match rows.find? (fun x => compare key x.1 == .eq) with
      | some x => some x.2.record
      | none => m.get? key := by
  induction rows generalizing m with
  | nil =>
    cases h
    rfl
  | cons x rows ih =>
    obtain ⟨hx, hnodup⟩ := List.nodup_cons.1 hnodup
    rw [List.foldlM_cons] at h
    cases hr : x.2.read with
    | error e => rw [hr] at h; cases h
    | ok r =>
      rw [hr] at h
      have hrest := ih hnodup h
      rw [hrest, List.find?_cons]
      by_cases hk : key = x.1
      · have hnone : rows.find? (fun x => compare key x.1 == .eq) = none := by
          refine List.find?_eq_none.2 fun y hy he => hx ?_
          rw [← hk, SortedMap.compare_beq_eq.1 he]
          exact List.mem_map_of_mem hy
        have hself : (compare key x.1 == .eq) = true := SortedMap.compare_beq_eq.2 hk
        rw [hnone, hself, SortedMap.get?_insert, if_pos hk.symm, Row.read_eq_ok hr]
      · have hne : (compare key x.1 == .eq) = false :=
          Bool.eq_false_iff.2 fun h => hk (SortedMap.compare_beq_eq.1 h)
        rw [hne, SortedMap.get?_insert, if_neg (Ne.symm hk)]

/-- The records of a table, if all can be read. -/
theorem records_of_ok {t : RecordTable} {m : SortedMap PrimaryKey Record}
    (h : t.records = .ok m) : m = t.rows.mapValues Row.record := by
  refine SortedMap.ext_get? fun key => ?_
  rw [get?_of_readRows (SortedMap.nodup_keys t.rows) h key, SortedMap.get?_mapValues]
  show _ = ((t.rows.toList.find? fun x => compare key x.1 == .eq).map (·.2)).map Row.record
  cases t.rows.toList.find? fun x => compare key x.1 == .eq <;> rfl

/-- **What is read are the records of the vault.** -/
theorem ok_of_readAll {records : SortedMap PrimaryKey Record}
    (h : readAll.perform s = (.ok records, s')) : s' = s ∧ records = s.vault.records := by
  refine ⟨reads_readAll.state h, ?_⟩
  rcases either_cases h with ⟨t, t', rfl, -, ht⟩ | ⟨d, d', rfl, -, hd⟩
  · obtain ⟨_, t₁, hl, hget⟩ := ok_of_bind ht
    obtain rfl := reads_guardLookup.state hl
    cases hget
    rfl
  · obtain ⟨rows, d₁, hrows, hread⟩ := ok_of_bind hd
    obtain ⟨rfl, hrows⟩ := Database.ok_of_recordTable hrows
    rw [perform_ofExcept] at hread
    rw [records_of_ok (Prod.mk.inj hread).1]
    exact (congrArg Vault.records (Database.vault_of_records hrows)).symm

theorem ok_of_record? {key : PrimaryKey} {r : Option Record}
    (h : (record? key).perform s = (.ok r, s')) : s' = s ∧ r = s.vault.records.get? key := by
  refine ⟨(reads_record? key).state h, ?_⟩
  rcases either_cases h with ⟨t, t', rfl, -, ht⟩ | ⟨d, d', rfl, -, hd⟩
  · obtain ⟨_, t₁, hl, hget⟩ := ok_of_bind ht
    obtain rfl := reads_guardLookup.state hl
    cases hget
    rfl
  · exact (Database.ok_of_record? hd).2

end Store

end CredentialSync
