import CredentialSync.Proofs.Store.Throughout

/-!
# How stores come about

`Store.Reached` are the stores that come about from new ones: by the operations of a store, whether
they succeed or fail, by switches that make operations fail, and by what reaches into a store past
its operations. All of them are sound (`Reached.sound`), and so is what a rollback brings back.
-/

namespace CredentialSync

open Attempt

/-! ## 1. Sound contents -/

/-- No resident key lies above the greatest key given out, and the tables of metadata exist. -/
structure Content.Sound (c : Content) : Prop where
  vault : c.vault.Sound
  complete : c.metadata.Complete

/-- The contents now and at the beginning of the open transaction are sound. -/
structure Store.Sound (s : Store) : Prop where
  content : s.content.Sound
  saved : ∀ c, s.saved = some c → c.Sound

/-! ## 2. Opening a database -/

namespace Tables

variable {P : Tables → Prop}

/-- Noting a version touches the notes only. -/
theorem noteVersion_keeps (hversions : ∀ t vs, P t → P { t with versions := vs }) (v : Int64)
    {t : Tables} (ht : P t) : P ((noteVersion v).perform t).2 := by
  obtain ⟨versions, records, entityMetadata, modelState⟩ := t
  unfold noteVersion
  rw [perform_bind, perform_get]
  cases versions with
  | none => exact ht
  | some vs =>
    by_cases hv : v ∈ vs
    · simpa [hv] using ht
    · simpa [hv] using hversions _ (some (insertVersion v vs)) ht

theorem runMigration_keeps (hversions : ∀ t vs, P t → P { t with versions := vs }) {m : Migration}
    (hm : ∀ t, P t → P (m.up t)) {t : Tables} (ht : P t) : P ((runMigration m).perform t).2 := by
  unfold runMigration
  simp only [perform_bind, perform_get, perform_modify, perform_tryCatch]
  have hnote := noteVersion_keeps hversions (Int64.ofNat m.version) (hm t ht)
  rcases h : (noteVersion (Int64.ofNat m.version)).perform (m.up t) with ⟨_ | _, t'⟩
  · exact ht
  · rw [h] at hnote
    exact hnote

theorem runMigrations_keeps (hversions : ∀ t vs, P t → P { t with versions := vs })
    {ms : List Migration} (hms : ∀ m ∈ ms, ∀ t, P t → P (m.up t)) {t : Tables} (ht : P t) :
    P ((runMigrations ms).perform t).2 := by
  induction ms generalizing t with
  | nil => exact ht
  | cons m ms ih =>
    unfold runMigrations
    rw [perform_bind]
    have hm := runMigration_keeps hversions (hms m List.mem_cons_self) ht
    rcases h : (runMigration m).perform t with ⟨_ | _, t'⟩ <;> rw [h] at hm
    · exact hm
    · exact ih (fun m' hm' => hms m' (List.mem_cons_of_mem _ hm')) hm

/-- **What every step of the schema keeps, migrating keeps.** -/
theorem migrate_keeps (hversions : ∀ t vs, P t → P { t with versions := vs })
    (hup : ∀ m ∈ Migration.all, ∀ t, P t → P (m.up t)) {t : Tables} (ht : P t) :
    P (migrate.perform t).2 := by
  unfold migrate version
  simp only [perform_bind, perform_modify, perform_get, perform_pure]
  exact runMigrations_keeps hversions (fun m hm => hup m (List.mem_filter.1 hm).1) (hversions _ _ ht)

/-- No step of the schema touches a record. -/
theorem vault_up {m : Migration} (hm : m ∈ Migration.all) (t : Tables) :
    (Content.database (m.up t)).vault = (Content.database t).vault := by
  obtain ⟨versions, records, entityMetadata, modelState⟩ := t
  simp only [Migration.all, List.mem_cons, List.not_mem_nil, or_false] at hm
  rcases hm with rfl | rfl
  · cases records <;> rfl
  · rfl

/-- No step of the schema touches a record or removes a table. -/
theorem sound_up {m : Migration} (hm : m ∈ Migration.all) (t : Tables)
    (ht : (Content.database t).Sound) : (Content.database (m.up t)).Sound := by
  obtain ⟨hvault, hentries, hstate⟩ := ht
  refine ⟨(vault_up hm t).symm ▸ hvault, ?_⟩
  simp only [Migration.all, List.mem_cons, List.not_mem_nil, or_false] at hm
  rcases hm with rfl | rfl
  · exact ⟨hentries, hstate⟩
  · exact ⟨rfl, rfl⟩

theorem sound_migrate {t : Tables} (ht : (Content.database t).Sound) :
    (Content.database (migrate.perform t).2).Sound :=
  migrate_keeps (P := fun t => (Content.database t).Sound) (fun _ _ ht => ⟨ht.vault, ht.complete⟩)
    (fun _ hm => sound_up hm) ht

end Tables

/-- Opening a database anew keeps what migrating keeps; an open transaction is undone. -/
theorem Store.Throughout.reopen {P : Content → Prop} {d d' : Database} {res : Except SyncError Unit}
    (h : (Store.database d).Throughout P)
    (hmigrate : ∀ t, P (.database t) → P (.database (Tables.migrate.perform t).2))
    (hd : Database.reopen.perform d = (res, d')) : (Store.database d').Throughout P := by
  have hlost : (Store.database d.lose).Throughout P := h.rollback rfl
  have hrollback : Database.rollback.perform d = (.ok (), d.lose) := rfl
  unfold Database.reopen at hd
  rw [bind_of_ok hrollback, perform_within] at hd
  obtain rfl := (Prod.mk.inj hd).2
  exact ⟨hmigrate _ hlost.content, hlost.saved⟩

namespace Store

/-! ## 3. What keeps a store sound -/

variable {s s' : Store}

theorem Sound.vault (h : s.Sound) : s.vault.Sound := h.content.vault

theorem sound_iff : s.Sound ↔ s.Throughout Content.Sound :=
  ⟨fun h => ⟨h.content, h.saved⟩, fun h => ⟨h.content, h.saved⟩⟩

/-- Steps of the vault with the metadata as it is. -/
theorem Sound.steps {c : Content} {cs : List LocalChange} (h : s.Sound)
    (hsteps : Vault.Steps s.vault cs c.vault) (hmetadata : c.metadata = s.metadata) : c.Sound :=
  ⟨hsteps.sound h.vault, hmetadata ▸ h.content.complete⟩

theorem Sound.edit {e : Edit} {res : Except SyncError (List LocalChange)} (h : s.Sound)
    (hs : e.attempt.perform s = (res, s')) : s'.Sound :=
  sound_iff.2 ((sound_iff.1 h).edit (fun _ _ hsteps hmetadata => h.steps hsteps hmetadata) hs)

theorem Sound.begin {res : Except SyncError Unit} (h : s.Sound)
    (hs : begin.perform s = (res, s')) : s'.Sound :=
  sound_iff.2 ((sound_iff.1 h).begin hs)

theorem Sound.commit {res : Except SyncError Unit} (h : s.Sound)
    (hs : commit.perform s = (res, s')) : s'.Sound :=
  sound_iff.2 ((sound_iff.1 h).commit hs)

theorem Sound.rollback {res : Except SyncError Unit} (h : s.Sound)
    (hs : rollback.perform s = (res, s')) : s'.Sound :=
  sound_iff.2 ((sound_iff.1 h).rollback hs)

theorem Sound.writeMetadata {w : MetadataWrite} {res : Except SyncError Unit} (h : s.Sound)
    (hs : (writeMetadata w).perform s = (res, s')) : s'.Sound := by
  refine sound_iff.2 ((sound_iff.1 h).writeMetadata (fun c hvault hmetadata => ⟨?_, ?_⟩) hs)
  · rw [hvault]
    exact h.vault
  · rw [hmetadata]
    exact h.content.complete.apply w

/-! ## 4. Stores that come about -/

/-- The stores that come about from new ones. -/
inductive Reached : Store → Prop where
  | table : Reached (.table {})
  | database : Reached (.database .fresh)
  | edit {s s' : Store} {e : Edit} {res : Except SyncError (List LocalChange)} (h : Reached s)
      (hs : e.attempt.perform s = (res, s')) : Reached s'
  | begin {s s' : Store} {res : Except SyncError Unit} (h : Reached s)
      (hs : Store.begin.perform s = (res, s')) : Reached s'
  | commit {s s' : Store} {res : Except SyncError Unit} (h : Reached s)
      (hs : Store.commit.perform s = (res, s')) : Reached s'
  | rollback {s s' : Store} {res : Except SyncError Unit} (h : Reached s)
      (hs : Store.rollback.perform s = (res, s')) : Reached s'
  | writeMetadata {s s' : Store} {w : MetadataWrite} {res : Except SyncError Unit} (h : Reached s)
      (hs : (Store.writeMetadata w).perform s = (res, s')) : Reached s'
  | seed {t : Table} (key : PrimaryKey) (r : Record) (h : Reached (.table t)) :
      Reached (.table (t.seed key r))
  | faults {t : Table} (f : Faults) (h : Reached (.table t)) : Reached (.table { t with faults := f })
  | insertRaw {d : Database} (key : PrimaryKey) (r : Record) (scheme preferred : Int64)
      (h : Reached (.database d)) : Reached (.database (d.insertRaw key r scheme preferred))
  | putRawEntry {d : Database} (key : StorageKey) (bytes : List UInt8) (h : Reached (.database d)) :
      Reached (.database (d.putRawEntry key bytes))
  | putRawState {d : Database} (bytes : List UInt8) (h : Reached (.database d)) :
      Reached (.database (d.putRawState bytes))
  | barriers {d : Database} (locked readOnly busy : Bool) (h : Reached (.database d)) :
      Reached (.database { d with locked := locked, readOnly := readOnly, busy := busy })
  | reopen {d d' : Database} {res : Except SyncError Unit} (h : Reached (.database d))
      (hd : Database.reopen.perform d = (res, d')) : Reached (.database d')

/-- A record under a chosen key raises the greatest key given out to it. -/
theorem sound_insert {v : Vault} (h : v.Sound) (key : PrimaryKey) (r : Record) :
    Vault.Sound { records := v.records.insert key r
                  lastKey := if v.lastKey < key then key else v.lastKey } := by
  have hmax : v.lastKey ≤ (if v.lastKey < key then key else v.lastKey) ∧
      key ≤ (if v.lastKey < key then key else v.lastKey) := by
    split
    · next hlt => exact ⟨Int64.le_of_lt hlt, Int64.le_refl _⟩
    · next hlt => exact ⟨Int64.le_refl _, Int64.not_lt.1 hlt⟩
  intro k r' hr'
  simp only [SortedMap.get?_insert] at hr'
  split at hr'
  · next he => exact he ▸ hmax.2
  · exact Int64.le_trans (h k r' hr') hmax.1

theorem Sound.insertRaw {d : Database} (h : Sound (.database d)) (key : PrimaryKey) (r : Record)
    (scheme preferred : Int64) : Sound (.database (d.insertRaw key r scheme preferred)) := by
  unfold Database.insertRaw
  split
  · exact h
  · next t ht =>
    refine ⟨⟨?_, h.content.complete⟩, h.saved⟩
    have hv := h.vault
    simp only [Store.vault, Store.content, Content.vault, ht] at hv
    simp only [Store.content, Content.vault, Database.putRecords, SortedMap.mapValues_insert]
    exact sound_insert hv key _

theorem Sound.putRawEntry {d : Database} (h : Sound (.database d)) (key : StorageKey)
    (bytes : List UInt8) : Sound (.database (d.putRawEntry key bytes)) := by
  obtain ⟨⟨hvault, hentries, hstate⟩, hsaved⟩ := h
  exact ⟨⟨hvault, (Option.isSome_map ..).trans hentries, hstate⟩, hsaved⟩

theorem Sound.putRawState {d : Database} (h : Sound (.database d)) (bytes : List UInt8) :
    Sound (.database (d.putRawState bytes)) := by
  obtain ⟨⟨hvault, hentries, hstate⟩, hsaved⟩ := h
  exact ⟨⟨hvault, hentries, (Option.isSome_map ..).trans hstate⟩, hsaved⟩

theorem Sound.reopen {d d' : Database} {res : Except SyncError Unit} (h : Sound (.database d))
    (hd : Database.reopen.perform d = (res, d')) : Sound (.database d') :=
  sound_iff.2 ((sound_iff.1 h).reopen (fun _ => Tables.sound_migrate) hd)

theorem Sound.fresh : Sound (.database .fresh) := by
  have htables : Database.fresh.tables =
      { versions := some [1, 2], records := some {}, entityMetadata := some [],
        modelState := some none } := rfl
  refine ⟨⟨?_, rfl, rfl⟩, fun _ hc => nomatch hc⟩
  show (Content.database Database.fresh.tables).vault.Sound
  rw [htables]
  exact Vault.sound_empty

/-- **Stores that come about are sound.** -/
theorem Reached.sound (h : Reached s) : s.Sound := by
  induction h with
  | table => exact ⟨⟨Vault.sound_empty, trivial⟩, fun _ hc => nomatch hc⟩
  | database => exact .fresh
  | edit _ hs ih => exact ih.edit hs
  | begin _ hs ih => exact ih.begin hs
  | commit _ hs ih => exact ih.commit hs
  | rollback _ hs ih => exact ih.rollback hs
  | writeMetadata _ hs ih => exact ih.writeMetadata hs
  | seed key r _ ih => exact ⟨⟨sound_insert ih.vault key r, trivial⟩, ih.saved⟩
  | faults _ _ ih => exact ⟨ih.content, ih.saved⟩
  | insertRaw key r scheme preferred _ ih => exact ih.insertRaw key r scheme preferred
  | putRawEntry key bytes _ ih => exact ih.putRawEntry key bytes
  | putRawState bytes _ ih => exact ih.putRawState bytes
  | barriers _ _ _ _ ih => exact ⟨ih.content, ih.saved⟩
  | reopen _ hd ih => exact ih.reopen hd

/-- A key raised to a chosen one stays above what it was above. -/
theorem le_raised {key last : PrimaryKey} (h : key ≤ last) (chosen : PrimaryKey) :
    key ≤ if last < chosen then chosen else last := by
  split
  · next hlt => exact Int64.le_trans h (Int64.le_of_lt hlt)
  · exact h

theorem Floor.insertRaw {d : Database} (h : Floor 0 (.database d)) (key : PrimaryKey) (r : Record)
    (scheme preferred : Int64) : Floor 0 (.database (d.insertRaw key r scheme preferred)) := by
  unfold Database.insertRaw
  split
  · exact h
  · next t ht =>
    refine ⟨?_, h.saved⟩
    have hlast := h.content
    simp only [content, Content.vault, ht] at hlast
    exact le_raised hlast key

theorem Floor.fresh : Floor 0 (.database .fresh) := by
  have hrecords : Database.fresh.tables.records = some {} := rfl
  refine ⟨?_, fun _ hc => nomatch hc⟩
  show 0 ≤ (Content.database Database.fresh.tables).vault.lastKey
  rw [Content.vault, hrecords]
  exact Int64.le_refl 0

/-- **Stores count their keys from one.** None that comes about has given out a negative key. -/
theorem Reached.floor (h : Reached s) : s.Floor 0 := by
  induction h with
  | table => exact ⟨Int64.le_refl 0, fun _ hc => nomatch hc⟩
  | database => exact .fresh
  | edit _ hs ih => exact (stable_floor 0).edit ih hs
  | begin _ hs ih => exact (stable_floor 0).begin ih hs
  | commit _ hs ih => exact (stable_floor 0).commit ih hs
  | rollback _ hs ih => exact (stable_floor 0).rollback ih hs
  | writeMetadata _ hs ih => exact (stable_floor 0).writeMetadata ih hs
  | seed key r _ ih => exact ⟨le_raised ih.content key, ih.saved⟩
  | faults _ _ ih => exact ⟨ih.content, ih.saved⟩
  | insertRaw key r scheme preferred _ ih => exact ih.insertRaw key r scheme preferred
  | putRawEntry _ _ _ ih => exact ⟨ih.content, ih.saved⟩
  | putRawState _ _ ih => exact ⟨ih.content, ih.saved⟩
  | barriers _ _ _ _ ih => exact ⟨ih.content, ih.saved⟩
  | reopen _ hd ih =>
    refine ih.reopen (fun t ht => ?_) hd
    exact Tables.migrate_keeps (P := fun t => 0 ≤ (Content.database t).vault.lastKey)
      (fun _ _ ht => ht) (fun m hm t ht => Tables.vault_up hm t ▸ ht) ht

end Store

end CredentialSync
