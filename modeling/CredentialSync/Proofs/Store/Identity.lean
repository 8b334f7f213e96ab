import CredentialSync.Proofs.Key
import CredentialSync.Proofs.Store.Ledger

/-!
# Primary keys are identities

A `Database.Move` is what can happen to a database: it is asked for something, it is opened anew, or what
stands in its way changes: a lock, someone who reads, a file that cannot be written.

* `Identified.after`: behind any moves of a new database, all records can be read, no two of them have the
  same natural key, and their primary keys are positive.
* `Lasts.given_gt`: a key that was given out is given out again only if the transaction in which that was
  done was not committed. Until the commit the transaction itself holds the key (`lastKey_le_of_open`),
  afterwards it is given out for good (`Database.Floor`).

`keys_are_identities` puts both together.
-/

namespace CredentialSync

open Attempt

/-! ## 1. Vaults -/

/-- Primary keys and natural keys both name one record. -/
structure Vault.Identified (v : Vault) : Prop where
  /-- Keys count from one, and none lies above the greatest key given out. -/
  counted : 0 ≤ v.lastKey ∧ ∀ key r, v.records.get? key = some r → 0 < key ∧ key ≤ v.lastKey
  distinct : ∀ key key' r r', v.records.get? key = some r → v.records.get? key' = some r' →
    r.naturalKey = r'.naturalKey → key = key'

namespace Vault

variable {v v' : Vault} {key : PrimaryKey} {r : Record}

theorem identified_empty : Identified {} :=
  ⟨⟨by decide, fun key r h => by simp at h⟩, fun key key' r r' h => by simp at h⟩

theorem Identified.drop (h : v.Identified) (key : PrimaryKey) : (v.drop key).Identified := by
  have hget : ∀ k r, (v.drop key).records.get? k = some r → v.records.get? k = some r := by
    intro k r hr
    simp only [records_drop, SortedMap.get?_erase] at hr
    split at hr
    · cases hr
    · exact hr
  exact ⟨⟨h.counted.1, fun k r hr => h.counted.2 k r (hget k r hr)⟩,
    fun k k' r r' hr hr' => h.distinct k k' r r' (hget k r hr) (hget k' r' hr')⟩

/-- The record under a key takes another one's place that has the same natural key. -/
theorem Identified.put (h : v.Identified) {old : Record} (hold : v.records.get? key = some old)
    (hn : old.naturalKey = r.naturalKey) : (v.put key r).Identified := by
  have hget : ∀ k r', (v.put key r).records.get? k = some r' →
      ∃ r'', v.records.get? k = some r'' ∧ r''.naturalKey = r'.naturalKey := by
    intro k r' hr
    simp only [records_put, SortedMap.get?_insert] at hr
    split at hr
    · next e =>
      cases hr
      exact ⟨old, e ▸ hold, hn⟩
    · exact ⟨r', hr, rfl⟩
  refine ⟨⟨h.counted.1, fun k r' hr => ?_⟩, fun k k' r₁ r₂ hr₁ hr₂ hsame => ?_⟩
  · obtain ⟨r'', hr'', -⟩ := hget k r' hr
    exact h.counted.2 k r'' hr''
  · obtain ⟨s₁, hs₁, hn₁⟩ := hget k r₁ hr₁
    obtain ⟨s₂, hs₂, hn₂⟩ := hget k' r₂ hr₂
    exact h.distinct k k' s₁ s₂ hs₁ hs₂ (hn₁.trans (hsame.trans hn₂.symm))

/-- A new record whose natural key no other one has. -/
theorem Identified.add (h : v.Identified) (hfree : v.find? r.naturalKey = none)
    {cs : List LocalChange} (hadd : v.add r = some (cs, v')) : v'.Identified := by
  obtain ⟨key, hnext, he⟩ := Option.map_eq_some_iff.1 hadd
  cases he
  have hlt := PrimaryKey.lt_of_next? hnext
  have hpos : (0 : PrimaryKey) < key := Int64.lt_of_le_of_lt h.counted.1 hlt
  have hother := find?_eq_none.1 hfree
  refine ⟨⟨Int64.le_of_lt hpos, fun k r' hr => ?_⟩, fun k k' r₁ r₂ hr₁ hr₂ hsame => ?_⟩
  · simp only [SortedMap.get?_insert] at hr
    split at hr
    · next e => exact e ▸ ⟨hpos, Int64.le_refl _⟩
    · obtain ⟨hk, hle⟩ := h.counted.2 k r' hr
      exact ⟨hk, Int64.le_trans hle (Int64.le_of_lt hlt)⟩
  · simp only [SortedMap.get?_insert] at hr₁ hr₂
    split at hr₁ <;> split at hr₂
    · next e e' => exact e.symm.trans e'
    · cases hr₁
      exact absurd hsame.symm (hother k' r₂ hr₂)
    · cases hr₂
      exact absurd hsame (hother k r₁ hr₁)
    · exact h.distinct k k' r₁ r₂ hr₁ hr₂ hsame

/-- The natural key of a record that was removed is free. -/
theorem Identified.find?_drop (h : v.Identified) {n : NaturalKey} (hfind : v.find? n = some key) :
    (v.drop key).find? n = none := by
  obtain ⟨old, hold, hn⟩ := find?_eq_some hfind
  refine find?_eq_none.2 fun k r hr hsame => ?_
  simp only [records_drop, SortedMap.get?_erase] at hr
  split at hr
  · cases hr
  · next hne => exact hne (h.distinct key k old r hold hr (hn.trans hsame.symm))

/-- A natural key is found exactly where a record has it. -/
theorem Identified.find?_iff (h : v.Identified) {n : NaturalKey} :
    v.find? n = some key ↔ ∃ r, v.records.get? key = some r ∧ r.naturalKey = n := by
  refine ⟨find?_eq_some, ?_⟩
  rintro ⟨r, hr, hn⟩
  cases hfind : v.find? n with
  | none => exact absurd hn (find?_eq_none.1 hfind key r hr)
  | some k =>
    obtain ⟨r', hr', hn'⟩ := find?_eq_some hfind
    rw [h.distinct k key r' r hr' hr (hn'.trans hn.symm)]

end Vault

/-! ## 2. Databases -/

/-- All records can be read, and both kinds of keys name one record. -/
structure Content.Identified (c : Content) : Prop where
  legible : c.Legible
  vault : c.vault.Identified

namespace Database

variable {d d' : Database} {t : RecordTable} {key : PrimaryKey} {r : Record}

/-- So it is now and at the beginning of the open transaction. -/
def Identified (d : Database) : Prop := (Store.database d).Throughout Content.Identified

theorem Identified.vault (h : d.Identified) : d.vault.Identified := h.content.vault

theorem Identified.putRecords (h : d.Identified) (hlegible : t.Legible)
    (hvault : (d.putRecords t).vault.Identified) : (d.putRecords t).Identified :=
  ⟨⟨⟨t, rfl, hlegible⟩, hvault⟩, h.saved⟩

/-- The open transaction was undone. -/
theorem Identified.lose (h : d.Identified) : d.lose.Identified := h.rollback rfl

theorem Identified.deleteRow {res : Except SyncError Unit} (h : d.Identified)
    (hd : (deleteRow key).perform d = (res, d')) : d'.Identified := by
  obtain ⟨t, ht, hlegible⟩ := h.content.legible
  rcases guarded hd with ⟨err, rfl, rfl, -⟩ | ⟨t', -, ht', hdel⟩
  · exact h
  · cases hdel
    obtain rfl : t = t' := Option.some.inj (ht.symm.trans ht')
    refine h.putRecords (hlegible.erase key) ?_
    rw [vault_putRecords, SortedMap.erase_mapValues]
    have hdrop := h.vault.drop key
    rwa [vault_of_records ht] at hdrop

theorem Identified.overwriteRow {res : Except SyncError (List LocalChange)} {old : Record}
    (h : d.Identified) (hold : d.vault.records.get? key = some old)
    (hn : old.naturalKey = r.naturalKey) (hd : (overwriteRow key r).perform d = (res, d')) :
    d'.Identified := by
  obtain ⟨t, ht, hlegible⟩ := h.content.legible
  rcases guarded hd with ⟨err, rfl, rfl, -⟩ | ⟨t', -, ht', hput⟩
  · exact h
  · cases hput
    obtain rfl : t = t' := Option.some.inj (ht.symm.trans ht')
    refine h.putRecords (hlegible.overwrite key r) ?_
    have hput := h.vault.put hold hn
    rw [vault_of_records ht] at hput hold
    rwa [vault_putRecords, RecordTable.records_overwrite hold hn, RecordTable.lastKey_overwrite]

theorem Identified.insertRow {res : Except SyncError PrimaryKey} (h : d.Identified)
    (hfree : d.vault.find? r.naturalKey = none) (hd : (insertRow r).perform d = (res, d')) :
    d'.Identified := by
  obtain ⟨t, ht, hlegible⟩ := h.content.legible
  rcases guarded hd with ⟨err, rfl, rfl, -⟩ | ⟨t', -, ht', hins⟩
  · exact h
  · obtain rfl : t = t' := Option.some.inj (ht.symm.trans ht')
    by_cases hlt : t.lastKey < PrimaryKey.greatest
    · rw [if_pos hlt] at hins
      cases hins
      refine h.putRecords (hlegible.insert _ _ r) ?_
      rw [vault_putRecords, SortedMap.mapValues_insert, Row.record_ofRecord]
      rw [vault_of_records ht] at hfree
      have hvault := h.vault
      rw [vault_of_records ht] at hvault
      refine hvault.add hfree (show _ = some ([⟨.add, t.lastKey + 1, r⟩], _) from ?_)
      rw [Vault.add, PrimaryKey.next?, if_pos hlt]
      rfl
    · rw [if_neg hlt] at hins
      cases hins
      exact h.lose

theorem Identified.add {res : Except SyncError (List LocalChange)} (h : d.Identified)
    (hd : (add r).perform d = (res, d')) : d'.Identified := by
  have hinsert (removed : List LocalChange) {w : Database} (hw : w.Identified)
      (hfree : w.vault.find? r.naturalKey = none)
      (hd : (Database.insertRow r >>= fun key => pure (removed ++ [⟨.add, key, r⟩]) :
        Attempt Database (List LocalChange)).perform w = (res, d')) : d'.Identified := by
    obtain ⟨_, hins⟩ := first_of_bind_pure hd
    exact hw.insertRow hfree hins
  unfold Database.add at hd
  rw [bind_of_ok (find?_of_legible h.content.legible _)] at hd
  cases hkey : d.vault.find? r.naturalKey with
  | none =>
    rw [hkey] at hd
    exact hinsert [] h hkey hd
  | some old =>
    obtain ⟨record, hrecord, -⟩ := Vault.find?_eq_some hkey
    rw [hkey] at hd
    simp only at hd
    rw [bind_of_ok (record?_of_legible h.content.legible _), hrecord] at hd
    simp only at hd
    rw [perform_bind] at hd
    rcases hdel : (Database.deleteRow old).perform d with ⟨e | _, w⟩ <;> rw [hdel] at hd
    · cases hd
      exact h.deleteRow hdel
    · refine hinsert _ (h.deleteRow hdel) ?_ hd
      rcases deleteRow_cases hdel with ⟨err, hres, -⟩ | ⟨-, -, -, hvault⟩
      · cases hres
      · rw [hvault]
        exact h.vault.find?_drop hkey

/-- **Edits keep both kinds of keys identities**, whether they succeed or fail. -/
theorem Identified.edit {e : Edit} {res : Except SyncError (List LocalChange)} (h : d.Identified)
    (hd : e.onDatabase.perform d = (res, d')) : d'.Identified := by
  cases e with
  | add r => exact h.add hd
  | update r =>
    unfold Edit.onDatabase Database.update at hd
    rw [bind_of_ok (find?_of_legible h.content.legible _)] at hd
    cases hkey : d.vault.find? r.naturalKey with
    | none =>
      rw [hkey] at hd
      cases hd
      exact h
    | some key =>
      rw [hkey] at hd
      obtain ⟨old, hold, hn⟩ := Vault.find?_eq_some hkey
      exact h.overwriteRow hold hn hd
  | updateAt key r =>
    unfold Edit.onDatabase Database.updateAt at hd
    rw [bind_of_ok (record?_of_legible h.content.legible _)] at hd
    cases hold : d.vault.records.get? key with
    | none =>
      rw [hold] at hd
      cases hd
      exact h
    | some old =>
      rw [hold] at hd
      simp only at hd
      cases hn : old.sameNaturalKey r with
      | false =>
        rw [hn] at hd
        cases hd
        exact h
      | true =>
        rw [hn] at hd
        exact h.overwriteRow hold (by simpa [Record.sameNaturalKey] using hn) hd
  | remove key =>
    unfold Edit.onDatabase Database.remove at hd
    rw [bind_of_ok (record?_of_legible h.content.legible _)] at hd
    cases hold : d.vault.records.get? key with
    | none =>
      rw [hold] at hd
      cases hd
      exact h
    | some old =>
      rw [hold] at hd
      obtain ⟨_, hdel⟩ := first_of_bind_pure hd
      exact h.deleteRow hdel

theorem Identified.writeMetadata {w : MetadataWrite} {res : Except SyncError Unit} (h : d.Identified)
    (hd : (writeMetadata w).perform d = (res, d')) : d'.Identified := by
  have hrecords := Store.records_writeMetadata hd
  rcases Store.database_writeMetadata_cases hd with ⟨-, -, hvault, hsaved, -, -⟩ | ⟨err, -, rfl⟩
  · refine ⟨⟨?_, ?_⟩, ?_⟩
    · show ∃ r, d'.tables.records = some r ∧ r.Legible
      rw [hrecords]
      exact h.content.legible
    · show d'.vault.Identified
      rw [hvault]
      exact h.vault
    · intro c hc
      refine h.saved c ?_
      rw [← hc]
      exact congrArg (Option.map _) hsaved.symm
  · exact h

theorem identified_up {m : Migration} (hm : m ∈ Migration.all) (t : Tables)
    (ht : (Content.database t).Identified) : (Content.database (m.up t)).Identified := by
  refine ⟨?_, (Tables.vault_up hm t).symm ▸ ht.vault⟩
  obtain ⟨r, hr, hlegible⟩ := ht.legible
  simp only [Migration.all, List.mem_cons, List.not_mem_nil, or_false] at hm
  rcases hm with rfl | rfl
  · refine ⟨r, ?_, hlegible⟩
    show some (t.records.getD {}) = some r
    rw [hr]
    rfl
  · exact ⟨r, hr, hlegible⟩

theorem Identified.reopen {res : Except SyncError Unit} (h : d.Identified)
    (hd : reopen.perform d = (res, d')) : d'.Identified :=
  Store.Throughout.reopen h
    (fun _ => Tables.migrate_keeps (P := fun t => (Content.database t).Identified)
      (fun _ _ ht => ⟨ht.legible, ht.vault⟩) fun _ hm => identified_up hm) hd

theorem identified_fresh : fresh.Identified := by
  have htables : fresh.tables =
      { versions := some [1, 2], records := some {}, entityMetadata := some [],
        modelState := some none } := rfl
  refine ⟨⟨⟨{}, rfl, fun key row h => by simp at h⟩, ?_⟩, fun _ hc => nomatch hc⟩
  show (Content.database fresh.tables).vault.Identified
  rw [htables]
  exact Vault.identified_empty

end Database

/-! ## 3. Moves -/

/-- The operation of a database that answers a request. -/
def Request.onDatabase : Request → Attempt Database Reply
  | .edit e => .changes <$> e.onDatabase
  | .record? key => .record <$> Database.record? key
  | .find? key => .key <$> Database.find? key
  | .readAll => .records <$> Database.readAll
  | .readMetadata => .metadata <$> Database.readMetadata
  | .writeMetadata w => (fun _ => .done) <$> Database.writeMetadata w
  | .begin => (fun _ => .done) <$> Database.begin
  | .commit => (fun _ => .done) <$> Database.commit
  | .rollback => (fun _ => .done) <$> Database.rollback

/-- It is the operation of a store on a database. -/
theorem Request.attempt_perform (q : Request) (d : Database) :
    q.attempt.perform (.database d) =
      ((q.onDatabase.perform d).1, .database (q.onDatabase.perform d).2) := by
  cases q with
  | edit e =>
    rw [Request.attempt, Request.onDatabase, perform_map, perform_map, Edit.attempt_eq]
    rfl
  | record? | find? | readAll | readMetadata | writeMetadata | begin | commit | rollback =>
    simp only [Request.attempt, Request.onDatabase, perform_map]
    rfl

/-- A request keeps what all operations of a store keep. -/
theorem Store.Stable.request {Q : Store → Prop} (hQ : Stable Q) {s : Store} (h : Q s) (q : Request) :
    Q (q.attempt.perform s).2 := by
  have hkeeps : q.attempt.Keeps Q := by
    cases q with
    | edit e => exact Keeps.map (fun _ h => hQ.edit h rfl) _
    | record? key => exact (reads_record? key).keeps.map _
    | find? key => exact (reads_find? key).keeps.map _
    | readAll => exact reads_readAll.keeps.map _
    | readMetadata => exact reads_readMetadata.keeps.map _
    | writeMetadata w => exact Keeps.map (fun _ h => hQ.writeMetadata h rfl) _
    | begin => exact Keeps.map (fun _ h => hQ.begin h rfl) _
    | commit => exact Keeps.map (fun _ h => hQ.commit h rfl) _
    | rollback => exact Keeps.map (fun _ h => hQ.rollback h rfl) _
  exact hkeeps s h

namespace Database

/-- What can happen to a database. -/
inductive Move where
  /-- It is asked for something. -/
  | ask (q : Request)
  /-- It is opened anew. -/
  | reopen
  /-- Another connection takes or returns the lock, begins or ends reading, or the file becomes
  read-only or writable. -/
  | barriers (locked readOnly busy : Bool)

namespace Move

/-- Makes a move. -/
def run : Move → Database → Except SyncError Reply × Database
  | .ask q, d => q.onDatabase.perform d
  | .reopen, d => ((fun _ => .done) <$> Database.reopen).perform d
  | .barriers locked readOnly busy, d => (.ok .done, { d with locked, readOnly, busy })

/-- The key that an addition gives out. -/
def given? (m : Move) (d : Database) : Option PrimaryKey :=
  match m, (m.run d).1 with
  | .ask (.edit (.add _)), .ok (.changes cs) => (cs.find? (·.kind = .add)).map (·.key)
  | _, _ => none

end Move

/-- The database behind some moves. -/
def after : List Move → Database → Database
  | [], d => d
  | m :: ms, d => after ms (m.run d).2

theorem after_append (ms ns : List Move) (d : Database) :
    after (ms ++ ns) d = after ns (after ms d) := by
  induction ms generalizing d with
  | nil => rfl
  | cons m ms ih => exact ih (m.run d).2

variable {d : Database} {key : PrimaryKey}

/-- **A move keeps both kinds of keys identities.** -/
theorem Identified.run (h : d.Identified) (m : Move) : (m.run d).2.Identified := by
  cases m with
  | ask q =>
    have hkeeps : q.onDatabase.Keeps Identified := by
      cases q with
      | edit e => exact Keeps.map (fun _ h => h.edit rfl) _
      | record? key => exact (reads_record? key).keeps.map _
      | find? n => exact (reads_find? n).keeps.map _
      | readAll => exact reads_readAll.keeps.map _
      | readMetadata => exact Store.reads_database_readMetadata.keeps.map _
      | writeMetadata w => exact Keeps.map (fun _ h => h.writeMetadata rfl) _
      | begin => exact Keeps.map (fun d h => Store.Throughout.begin (s := .database d) h rfl) _
      | commit => exact Keeps.map (fun d h => Store.Throughout.commit (s := .database d) h rfl) _
      | rollback => exact Keeps.map (fun _ h => h.lose) _
    exact hkeeps d h
  | reopen =>
    rw [Move.run, perform_map]
    exact h.reopen rfl
  | barriers => exact ⟨h.content, h.saved⟩

theorem Identified.after (h : d.Identified) (ms : List Move) : (after ms d).Identified := by
  induction ms generalizing d with
  | nil => exact h
  | cons m ms ih => exact ih (h.run m)

/-! ## 4. Keys that have been given out -/

/-- All keys up to this one have been given out for good. -/
def Floor (key : PrimaryKey) (d : Database) : Prop := (Store.database d).Floor key

theorem Floor.run (h : d.Floor key) (m : Move) : (m.run d).2.Floor key := by
  cases m with
  | ask q =>
    have hrequest := (Store.stable_floor key).request h q
    rw [q.attempt_perform] at hrequest
    exact hrequest
  | reopen =>
    rw [Move.run, perform_map]
    refine Store.Throughout.reopen h (fun _ => Tables.migrate_keeps
      (P := fun t => key ≤ (Content.database t).vault.lastKey) (fun _ _ ht => ht)
      fun m hm t ht => ?_) rfl
    rw [Tables.vault_up hm]
    exact ht
  | barriers => exact ⟨h.content, h.saved⟩

/-- **A key that an addition gives out is the next one.** The transaction stays as it is. -/
theorem given_spec {m : Move} (h : m.given? d = some key) :
    d.vault.lastKey < key ∧ (m.run d).2.vault.lastKey = key ∧ (m.run d).2.saved = d.saved := by
  unfold Move.given? at h
  split at h
  · next r cs hres =>
    rw [Move.run, Request.onDatabase, perform_map] at hres ⊢
    rcases hrun : (Edit.onDatabase (.add r)).perform d with ⟨res, d'⟩
    rw [hrun] at hres
    have hedit := edit_outcome hrun
    cases hedit with
    | done hkept hadd =>
      cases hres
      obtain ⟨removed, key', rfl, hremoved, hnext, hlast⟩ := Vault.added_of_edit hadd
      have hnone : removed.find? (·.kind = .add) = none :=
        List.find?_eq_none.2 fun c hc => by simp [hremoved c hc]
      rw [List.find?_append, hnone] at h
      obtain rfl : key' = key := Option.some.inj h
      exact ⟨PrimaryKey.lt_of_next? hnext, hlast, hkept.saved⟩
    | failed | lost => cases hres
  · cases h

theorem Floor.given_gt (h : d.Floor key) {mid : List Move} {m : Move} {key' : PrimaryKey}
    (hgiven : m.given? (Database.after mid d) = some key') : key < key' := by
  have hfloor : (Database.after mid d).Floor key := by
    clear hgiven
    induction mid generalizing d with
    | nil => exact h
    | cons m mid ih => exact ih (h.run m)
  exact Int64.lt_of_le_of_lt hfloor.content (given_spec hgiven).1

/-- A database that is opened anew has no open transaction. -/
theorem saved_reopen (d : Database) : (Database.reopen.perform d).2.saved = none := by
  have hrollback : Database.rollback.perform d = (.ok (), d.lose) := rfl
  rw [Database.reopen, bind_of_ok hrollback, perform_within]
  rfl

/-- As long as a transaction stays open, no key is given back. -/
theorem lastKey_le_of_open {m : Move} (hopen : d.saved ≠ none) (hstill : (m.run d).2.saved ≠ none) :
    d.vault.lastKey ≤ (m.run d).2.vault.lastKey := by
  have hreads {α β : Type} {a : Attempt Database α} (ha : a.Reads) (f : α → β) :
      d.vault.lastKey ≤ ((f <$> a).perform d).2.vault.lastKey := by
    rw [perform_map, ha]
    exact Int64.le_refl _
  cases m with
  | ask q =>
    rw [Move.run] at hstill ⊢
    cases q with
    | edit e =>
      rw [Request.onDatabase, perform_map] at hstill ⊢
      rcases hrun : e.onDatabase.perform d with ⟨res, d'⟩
      rw [hrun] at hstill
      cases edit_outcome hrun with
      | done _ hedit => exact (Vault.steps_of_edit hedit).lastKey_le
      | failed => exact Int64.le_refl _
      | lost => exact absurd rfl hstill
    | record? key => exact hreads (reads_record? key) _
    | find? n => exact hreads (reads_find? n) _
    | readAll => exact hreads reads_readAll _
    | readMetadata => exact hreads Store.reads_database_readMetadata _
    | writeMetadata w =>
      rw [Request.onDatabase, perform_map]
      rcases hrun : (Database.writeMetadata w).perform d with ⟨res, d'⟩
      rcases Store.database_writeMetadata_cases hrun with ⟨-, -, hvault, -⟩ | ⟨err, -, rfl⟩
      · rw [hvault]
        exact Int64.le_refl _
      · exact Int64.le_refl _
    | begin =>
      rw [Request.onDatabase, perform_map]
      rcases hrun : Database.begin.perform d with ⟨res, d'⟩
      rcases Store.database_begin_cases hrun with ⟨-, hclosed, -⟩ | ⟨err, -, rfl⟩
      · exact absurd hclosed hopen
      · exact Int64.le_refl _
    | commit =>
      rw [Request.onDatabase, perform_map] at hstill ⊢
      rcases hrun : Database.commit.perform d with ⟨res, d'⟩
      rw [hrun] at hstill
      rcases Store.database_commit_cases hrun with ⟨-, rfl⟩ | ⟨err, -, rfl⟩
      · exact absurd rfl hstill
      · exact Int64.le_refl _
    | rollback => exact absurd rfl hstill
  | reopen =>
    rw [Move.run, perform_map] at hstill
    exact absurd (saved_reopen d) hstill
  | barriers => exact Int64.le_refl _

/-- The open transaction, if there is one, is committed in the course of the moves. -/
def Lasts : List Move → Database → Prop
  | [], d => d.saved = none
  | m :: ms, d => d.saved = none ∨ (m = .ask .commit ∧ (m.run d).1 = .ok .done) ∨
      (m.run d).2.saved ≠ none ∧ Lasts ms (m.run d).2

/-- **A key that lasts is not given out again.** -/
theorem Lasts.given_gt {ms : List Move} (h : Lasts ms d) (hkey : key ≤ d.vault.lastKey)
    {mid post : List Move} {m : Move} {key' : PrimaryKey} (hms : ms = mid ++ m :: post)
    (hgiven : m.given? (Database.after mid d) = some key') : key < key' := by
  have hclosed (mid : List Move) {d : Database} (hsaved : d.saved = none)
      (hkey : key ≤ d.vault.lastKey) (hgiven : m.given? (Database.after mid d) = some key') :
      key < key' := by
    refine Floor.given_gt ⟨hkey, fun c hc => ?_⟩ hgiven
    rw [Store.saved, hsaved] at hc
    cases hc
  induction ms generalizing d mid with
  | nil => simp at hms
  | cons m₀ ms ih =>
    rcases h with hsaved | hlasts
    · exact hclosed mid hsaved hkey hgiven
    cases mid with
    | nil =>
      obtain ⟨hlt, -⟩ := given_spec hgiven
      exact Int64.lt_of_le_of_lt hkey hlt
    | cons m₁ mid =>
      obtain ⟨rfl, rfl⟩ := List.cons.inj hms
      rcases hlasts with ⟨rfl, hok⟩ | ⟨hstill, hlasts⟩
      · rw [Move.run, Request.onDatabase, perform_map] at hok
        rcases hrun : Database.commit.perform d with ⟨res, d'⟩
        rcases Store.database_commit_cases hrun with ⟨-, rfl⟩ | ⟨err, rfl, -⟩
        · have hnext : (Move.run (.ask .commit) d).2 = { d with saved := none } := by
            rw [Move.run, Request.onDatabase, perform_map, hrun]
          refine hclosed mid (d := (Move.run (.ask .commit) d).2) ?_ ?_ hgiven <;> rw [hnext]
          exact hkey
        · rw [hrun] at hok
          cases hok
      · by_cases hopen : d.saved = none
        · exact hclosed _ hopen hkey hgiven
        · exact ih hlasts (Int64.le_trans hkey (lastKey_le_of_open hopen hstill)) rfl hgiven

/-! ## 5. Identities -/

/-- What the keys of a database are to those who ask it. -/
structure Identifies (d : Database) : Prop where
  /-- All records can be read; they are those of the vault. -/
  readAll : readAll.perform d = (.ok d.vault.records, d)
  distinct : ∀ key key' r r', d.vault.records.get? key = some r → d.vault.records.get? key' = some r' →
    r.naturalKey = r'.naturalKey → key = key'
  found : ∀ n key, (find? n).perform d = (.ok (some key), d) ↔
    ∃ r, (record? key).perform d = (.ok (some r), d) ∧ r.naturalKey = n
  decoded : ∀ key r, d.vault.records.get? key = some r →
    0 < key ∧ StorageKey.primaryKey? key.storageKey = some key

theorem Identified.identifies (h : d.Identified) : d.Identifies := by
  obtain ⟨hlegible, hvault⟩ := h.content
  refine ⟨readAll_of_legible hlegible, hvault.distinct, fun n key => ?_, fun key r hr => ?_⟩
  · rw [find?_of_legible hlegible, record?_of_legible hlegible]
    simp only [Prod.mk.injEq, Except.ok.injEq, and_true]
    exact hvault.find?_iff
  · have hpos := (hvault.counted.2 key r hr).1
    exact ⟨hpos, PrimaryKey.primaryKey?_storageKey.2 hpos⟩

/-- **Primary keys are identities.** Behind any moves of a new database, both kinds of keys name one record,
    and every primary key can be read back from its storage key. A key that an addition has given out is less
    than all keys that are given out behind it, whatever becomes of the record, if the transaction in which
    the addition stands, if there is one, is committed sooner or later. -/
theorem keys_are_identities :
    (∀ moves, (after moves fresh).Identifies) ∧
      ∀ pre add rest key, add.given? (after pre fresh) = some key →
        Lasts rest (after (pre ++ [add]) fresh) →
        ∀ mid later post key', rest = mid ++ later :: post →
          later.given? (after (pre ++ add :: mid) fresh) = some key' → key < key' := by
  refine ⟨fun moves => (identified_fresh.after moves).identifies, ?_⟩
  intro pre add rest key hgiven hlasts mid later post key' hrest hlater
  have hkey : (after (pre ++ [add]) fresh).vault.lastKey = key := by
    rw [after_append]
    exact (given_spec hgiven).2.1
  refine hlasts.given_gt (Int64.le_of_eq hkey.symm) hrest ?_
  rw [← after_append, List.append_assoc]
  exact hlater

/-- A record is added in a transaction. -/
def addition (r : Record) : Move := .ask (.edit (.add r))

/-- The transaction is committed, the record removed, the database opened anew, and another transaction
    undone in which a record was added. -/
def turmoil : List Move :=
  [.ask .commit, .ask (.edit (.remove 1)), .reopen, .ask .begin, addition (.sample "b"), .ask .rollback]

theorem keys_are_identities_turmoil :
    (after (.ask .begin :: addition (.sample "a") :: turmoil) fresh).Identifies ∧
      (addition (.sample "a")).given? (after [.ask .begin] fresh) = some 1 ∧
      Lasts (turmoil ++ [addition (.sample "a")]) (after [.ask .begin, addition (.sample "a")] fresh) ∧
      (addition (.sample "a")).given?
        (after (.ask .begin :: addition (.sample "a") :: turmoil) fresh) = some 2 ∧
      (1 : PrimaryKey) < 2 := by
  have hlasts : Lasts (turmoil ++ [addition (.sample "a")])
      (after [.ask .begin, addition (.sample "a")] fresh) := .inr (.inl ⟨rfl, rfl⟩)
  exact ⟨keys_are_identities.1 _, rfl, hlasts, rfl,
    keys_are_identities.2 [.ask .begin] (addition (.sample "a")) _ 1 rfl hlasts turmoil _ [] 2 rfl rfl⟩

end Database

end CredentialSync
