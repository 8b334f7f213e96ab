import CredentialSync.Proofs.Apply.Taken
import CredentialSync.Proofs.Key
import CredentialSync.Proofs.Mirror.Overheard
import CredentialSync.Proofs.Store.Rows

/-!
# Entities that are stored and read back

A remote entity becomes a record, the record a row, and its primary key a storage key. Read back under
this storage key, the entity has come through all of it (`Device.added_returns`).

* `Entity.ComesBack` says what comes back: all fields of the credential, with a scheme that has a name,
  and the tag hash of the credential itself, whatever hash the entity had.
* Behind an addition the newest row is that of the entity (`Apply.newest_of_addEntity`), and what follows
  in the same application leaves it alone.
* `AppliedAll.ends_with_addition`: the processor is told the key of this row last.
-/

namespace CredentialSync

open Attempt

/-! ## 1. What comes back of an entity -/

/-- The number of a scheme stays, and any other number becomes that of a form. -/
theorem Scheme.code_ofCode (code : Int32) :
    (ofCode code).code = if 0 ≤ code ∧ code ≤ 3 then code else 0 := by
  have hcases : 0 ≤ code ∧ code ≤ 3 → code = 0 ∨ code = 1 ∨ code = 2 ∨ code = 3 := by
    simp only [Int32.le_iff_toInt_le, ← Int32.toInt_inj]
    exact fun ⟨hlow, hhigh⟩ => by
      have hzero : (0 : Int32).toInt = 0 := rfl
      have hone : (1 : Int32).toInt = 1 := rfl
      have htwo : (2 : Int32).toInt = 2 := rfl
      have hthree : (3 : Int32).toInt = 3 := rfl
      omega
  by_cases hrange : 0 ≤ code ∧ code ≤ 3
  · rw [if_pos hrange]
    rcases hcases hrange with rfl | rfl | rfl | rfl <;> rfl
  · rw [if_neg hrange]
    have hne : code ≠ 1 ∧ code ≠ 2 ∧ code ≠ 3 := by
      refine ⟨?_, ?_, ?_⟩ <;> rintro rfl <;> exact hrange ⟨by decide, by decide⟩
    simp only [ofCode, beq_iff_eq, hne.1, hne.2.1, hne.2.2, if_false, Scheme.code]

namespace Entity

/-- What comes back of an entity that was stored. -/
structure ComesBack (e back : Entity) : Prop where
  specifics : back.specifics = { e.specifics with
    scheme := if 0 ≤ e.specifics.scheme ∧ e.specifics.scheme ≤ 3 then e.specifics.scheme else 0 }
  tagHash : back.tagHash = CredentialSync.tagHash e.specifics.tag
  name : back.name = e.specifics.signonRealm
  creationTime : back.creationTime = e.specifics.dateCreated

/-- **An entity comes back from its record.** The scheme is no part of a client tag. -/
theorem comesBack (e : Entity) : e.ComesBack (ofRecord e.record) where
  specifics := by
    rw [← Scheme.code_ofCode]
    rfl
  tagHash := rfl
  name := rfl
  creationTime := rfl

end Entity

/-! ## 2. Work beside the rows -/

/-- The newest row of the store is that of a record. -/
def Scope.Newest {π : Type} (r : Record) (s : Scope π) : Prop := s.store.content.Newest r

namespace Work

variable {π : Type} {r : Record}

theorem newest_writes (ws : List MetadataWrite) {s : Scope π} (h : s.Newest r) :
    (ws.foldl writeOne s).Newest r :=
  keeps_writes (Q := fun s => s.content.Newest r)
    (fun _ _ hs => hs.congr (Store.recordTable_writeMetadata rfl)) ws h

theorem keeps_newest_write (ws : List MetadataWrite) :
    (Work.write ws : Work π Unit).Keeps (Scope.Newest r) := fun _ h => newest_writes ws h

theorem keeps_newest_tell [Processor π] (f : π → List MetadataWrite × π) :
    (Work.tell f).Keeps (Scope.Newest r) := fun s h => by
  rw [perform_tell]
  exact newest_writes _ (s := { s with processor := (f s.processor).2 }) h

theorem keeps_newest_writePending : (Work.writePending : Work π Unit).Keeps (Scope.Newest r) :=
  fun s h => by
    rw [perform_writePending]
    exact newest_writes _ (s := { s with pending := {} }) h

theorem keeps_newest_clearRemoved (cs : List LocalChange) :
    (Merge.clearRemoved cs : Work π (Option PrimaryKey × List PrimaryKey)).Keeps
      (Scope.Newest r) := by
  induction cs with
  | nil => exact (Reads.pure _).keeps
  | cons c cs ih =>
    unfold Merge.clearRemoved
    split
    · exact ih.bind fun _ => (Reads.pure _).keeps
    · exact (keeps_newest_write _).bind fun _ => ih.bind fun _ => (Reads.pure _).keeps

end Work

/-! ## 3. Applications that end with an addition -/

namespace Apply

variable {π : Type} [Processor π]

/-- **Behind an addition the newest row is that of the entity.** -/
theorem newest_of_addEntity {s s' : Scope π} {e : Entity} {key : PrimaryKey}
    (h : (addEntity e).perform s = (.ok key, s')) : s'.Newest e.record := by
  obtain ⟨cs, t, hadd, hrest⟩ := ok_of_bind h
  have hnewest : t.Newest e.record := by
    obtain ⟨_, u, hstore, hreport⟩ := ok_of_bind hadd
    cases hreport
    rw [Work.onStore, perform_within] at hstore
    rcases hres : (Store.add e.record).perform s.store with ⟨res, t'⟩
    rw [hres] at hstore
    cases hstore
    exact Store.newest_of_add hres
  -- what follows clears the metadata of the records that made room, and tells the key
  refine Keeps.state ?_ hnewest hrest
  refine (Work.keeps_newest_clearRemoved cs).bind ?_
  rintro ⟨key?, removed⟩
  cases key? with
  | none => exact (Reads.throw _).keeps
  | some key => exact (Work.keeps_newest_tell _).bind fun _ => (Reads.pure _).keeps

/-- Changes in two parts are carried out one part after the other. -/
theorem applyChanges_append (summary : ApplySummary) (cs ds : List RemoteChange) :
    (applyChanges summary (cs ++ ds) : Work π ApplySummary) =
      applyChanges summary cs >>= fun summary => applyChanges summary ds := by
  induction cs generalizing summary with
  | nil => exact (pure_bind _ _).symm
  | cons c cs ih =>
    show (applyChange c >>= fun _ => applyChanges (summary.count c.kind) (cs ++ ds)) =
      (applyChange c >>= fun _ => applyChanges (summary.count c.kind) cs) >>= _
    rw [bind_assoc]
    exact congrArg _ (funext fun _ => ih _)

/-- An application that ends with an addition leaves its record as the newest row. -/
theorem newest_of_work {s s' : Scope π} {front : List RemoteChange} {c : RemoteChange} {e : Entity}
    {summary : ApplySummary} (hkind : c.kind = .add) (hdata : c.data = some e)
    (h : (work (front ++ [c])).perform s = (.ok summary, s')) : s'.Newest e.record := by
  obtain ⟨summary', t, hchanges, hrest⟩ := ok_of_bind h
  rw [applyChanges_append] at hchanges
  obtain ⟨_, u, -, hlast⟩ := ok_of_bind hchanges
  obtain ⟨_, w, hchange, hend⟩ := ok_of_bind hlast
  cases hend
  have hnewest : t.Newest e.record := by
    unfold applyChange at hchange
    rw [hkind] at hchange
    obtain ⟨e', x, hrequire, hadd⟩ := ok_of_bind hchange
    obtain ⟨rfl, hdata'⟩ := requireData_ok hrequire
    rw [hdata] at hdata'
    cases hdata'
    obtain ⟨key, y, hadd, hreturn⟩ := ok_of_bind hadd
    cases hreturn
    exact newest_of_addEntity hadd
  refine Keeps.state ?_ hnewest hrest
  exact Work.keeps_newest_writePending.bind fun _ => Work.reads_settle.keeps.bind fun _ =>
    (Reads.pure _).keeps

end Apply

/-- The last thing that an application tells, if it ends with an addition: the storage key of the
    greatest key given out. -/
theorem AppliedAll.ends_with_addition {replacing : Bool} {v v' : Vault} {front : List RemoteChange}
    {c : RemoteChange} {e : Entity} {cs : List LocalChange} {es : List Work.Event}
    (hkind : c.kind = .add) (hdata : c.data = some e)
    (h : AppliedAll replacing v (front ++ [c]) cs es v') :
    v.lastKey < v'.lastKey ∧
      ∃ fs, es = fs ++ [.call (.assignKey v'.lastKey.storageKey e)] := by
  induction front generalizing v cs es with
  | nil =>
    cases h with
    | cons hc hnil =>
      cases hnil
      cases hc with
      | added _ hdata' hplaced =>
        rw [hdata] at hdata'
        cases hdata'
        cases hplaced with
        | mk hkey =>
          rw [Vault.lastKey_makeRoom] at hkey
          exact ⟨PrimaryKey.lt_of_next? hkey, _, List.append_nil _⟩
      | overwrote hkind' | moved hkind' | deleted hkind' =>
        rw [hkind] at hkind'
        cases hkind'
  | cons c' front ih =>
    cases h with
    | cons hc hs =>
      obtain ⟨hlt, fs, rfl⟩ := ih hs
      exact ⟨Int64.lt_of_le_of_lt hc.steps.lastKey_le hlt, _, (List.append_assoc ..).symm⟩

/-! ## 4. Storing and reading back -/

namespace Device

variable {π : Type}

/-- The entity of a record is read under the storage key of its primary key, if that is positive. -/
theorem data_of_record {d : Device π} {key : PrimaryKey} {r : Record} (hpos : 0 < key)
    (h : (Store.record? key).perform d.store = (.ok (some r), d.store)) :
    (data [key.storageKey]).perform d = (.ok [(key.storageKey, Entity.ofRecord r)], d) := by
  have hkey : (Attempt.ofExcept (StorageKey.primaryKey key.storageKey) :
      Attempt (Device π) PrimaryKey).perform d = (.ok key, d) := by
    rw [perform_ofExcept, StorageKey.primaryKey, PrimaryKey.primaryKey?_storageKey.2 hpos]
  have hread : (onStore (Store.record? key)).perform d = (.ok (some r), d) := by
    rw [onStore, perform_within, h]
  rw [data, bind_of_ok hkey, bind_of_ok hread]
  rfl

variable [Processor π]

/-- An application that succeeds has done its work, and what the work has left is committed. -/
theorem work_of_apply {d d' : Device π} {remote : List RemoteChange} {summary : ApplySummary}
    (h : (apply remote).perform d = (.ok summary, d')) :
    ∃ s, (Apply.work remote).perform d.begun.scope = (.ok summary, s) ∧
      d'.store.content = s.store.content := by
  have hresult := apply_result remote d
  have hstore := (sameWork_apply remote d).store
  rw [h] at hresult hstore
  have hbatched := batched .bridge .remote (body (Apply.work remote)) d
  rcases hbatched.result_cases with ⟨_, herror, -⟩ | ⟨a, ds, hok, hcommitted⟩
  · rw [herror] at hresult
    cases hresult
  · rw [hok] at hresult
    cases hresult
    rw [hcommitted] at hbatched
    obtain ⟨_, s, hvalue, hwork, -, -, -, hcontent, -⟩ := hbatched.committed_work
    cases hvalue
    exact ⟨s, hwork, (congrArg Store.content hstore).trans hcontent⟩

/-- **A remote entity survives being stored and read back.** An application of remote changes that ends
    with an addition tells the processor, as the last storage key of all, one under which exactly this
    entity is read: its credential in all fields, except that a number without a scheme comes back as
    that of a form, and the tag hash of the credential.

    Keys count from one in every store that comes about (`Store.Reached.floor`). Other records of the
    store need not be readable. -/
theorem added_returns {d d' : Device (Overheard π)} (front : List RemoteChange) {c : RemoteChange}
    {e : Entity} {summary : ApplySummary} (hquiet : d.store.Quiet)
    (hcounted : 0 ≤ d.store.vault.lastKey) (hkind : c.kind = .add) (hdata : c.data = some e)
    (h : (apply (front ++ [c])).perform d = (.ok summary, d')) :
    ∃ key back, (d'.processor.heard.filterMap ProcessorCall.assigned?).getLast? = some key ∧
      (data [key]).perform d' = (.ok [(key, back)], d') ∧ e.ComesBack back := by
  obtain ⟨cs, es, htaken⟩ := apply_ok hquiet h
  -- the key told last is the greatest one given out, and it is positive since it is a new one
  obtain ⟨hlt, fs, rfl⟩ := htaken.applied.ends_with_addition hkind hdata
  obtain ⟨s, hwork, hcontent⟩ := work_of_apply h
  have hnewest : d'.store.content.Newest e.record :=
    hcontent ▸ Apply.newest_of_work hkind hdata hwork
  have hread := Store.record?_of_newest (htaken.steady.quiet hquiet) hnewest
  refine ⟨_, _, ?_, data_of_record (Int64.lt_of_le_of_lt hcounted hlt) hread, e.comesBack⟩
  obtain ⟨asked, hheard, -⟩ := htaken.heard
  have hprocessor := congrArg Prod.fst hheard
  rw [Work.Event.processor_hear, List.filterMap_append, List.filterMap_append] at hprocessor
  have htold : d'.processor.heard = (d.processor.heard ++ fs.filterMap Work.Event.call?) ++
      [.assignKey d'.store.vault.lastKey.storageKey e] := by
    rw [show d'.processor = _ from hprocessor, Overheard.hearAll_heard]
    simp [List.filterMap_cons, Work.Event.call?]
  rw [htold, List.filterMap_append]
  exact List.getLast?_concat

end Device

/-- An entity from elsewhere. It has something in every field, a scheme without a name, and the hash of
    another credential. -/
def Entity.foreign : Entity where
  tagHash := "bm90IGl0cyBvd24="
  id := "server-7"
  name := "foreign"
  specifics :=
    { origin := "https://example.com/login", action := "https://example.com/enter"
      usernameElement := "user", usernameValue := "ann", passwordElement := "pass"
      passwordValue := "secret", signonRealm := "https://example.com/", scheme := 7
      preferred := true, blacklisted := false, timesUsed := 3, dateCreated := 1700000000
      displayName := "Ann", iconUrl := "https://example.com/icon.png" }
  creationTime := 5
  modificationTime := 6

namespace Device

/-- A device with a database in which one record cannot be read. -/
def partlyLegible : Device (Overheard Recorder) where
  store := .database (Database.fresh.insertRaw 5 (.sample "a") 5000000000 1)
  processor := ⟨{}, []⟩
  notifier := .ofCapacity 1

theorem added_returns_foreign :
    ∃ d', (apply [.sample "b", .add .foreign]).perform partlyLegible = (.ok { added := 2 }, d') ∧
      ∃ key back, (d'.processor.heard.filterMap ProcessorCall.assigned?).getLast? = some key ∧
        (data [key]).perform d' = (.ok [(key, back)], d') ∧ Entity.foreign.ComesBack back := by
  have happly : ((apply [.sample "b", .add .foreign]).perform partlyLegible).1.toOption =
      some { added := 2 } := by decide +kernel
  have h := ok_of_toOption happly
  have hreached : partlyLegible.store.Reached := .insertRaw 5 (.sample "a") 5000000000 1 .database
  have hquiet : partlyLegible.store.Quiet := ⟨rfl, rfl⟩
  exact ⟨_, h, added_returns [.sample "b"] hquiet hreached.floor.content rfl rfl h⟩

end Device

end CredentialSync
