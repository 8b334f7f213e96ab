import CredentialSync.Proofs.Merge.Run

/-!
# What an application of remote changes does

`Applied` says what one remote change does to the records, and what else happens: it adds an entity
(`Placed`), overwrites a record in place, moves it, or removes it. `AppliedAll` is the run over all
changes. On a store that is not told to fail, every application that succeeds is such a run
(`applyChange_ok`, `applyChanges_ok`, `work_ok`).
-/

namespace CredentialSync

open Attempt Work

/-- The metadata of removed records is cleared. -/
def clearings (cs : List LocalChange) : List Work.Event := cs.map fun c => .write [.clear c.storageKey]

/-- An entity becomes a record under a fresh key; with `replacing`, the record with its natural key
    makes room before. -/
inductive Placed (replacing : Bool) (v : Vault) (e : Entity) :
    PrimaryKey → List LocalChange → List Work.Event → Vault → Prop where
  | mk {key : PrimaryKey}
      (hkey : PrimaryKey.next? (v.makeRoom replacing e.record).2.lastKey = some key) :
      Placed replacing v e key
        ((v.makeRoom replacing e.record).1 ++ [⟨.add, key, e.record⟩])
        (clearings (v.makeRoom replacing e.record).1 ++ [.call (.assignKey key.storageKey e)])
        ((v.makeRoom replacing e.record).2.insertNew key e.record)

/-- What one remote change does. -/
inductive Applied (replacing : Bool) (v : Vault) :
    RemoteChange → List LocalChange → List Work.Event → Vault → Prop where
  | added {c : RemoteChange} {e : Entity} {key : PrimaryKey} {cs : List LocalChange}
      {es : List Work.Event} {v' : Vault} (hkind : c.kind = .add) (hdata : c.data = some e)
      (hplaced : Placed replacing v e key cs es v') : Applied replacing v c cs es v'
  | overwrote {c : RemoteChange} {e : Entity} {key : PrimaryKey} {old : Record}
      (hkind : c.kind = .update) (hkey : StorageKey.primaryKey? c.storageKey = some key)
      (hdata : c.data = some e) (hold : v.records.get? key = some old)
      (hsame : old.naturalKey = e.record.naturalKey) :
      Applied replacing v c [⟨.update, key, e.record⟩] [] (v.put key e.record)
  | moved {c : RemoteChange} {e : Entity} {key key' : PrimaryKey} {old : Record}
      {cs : List LocalChange} {es : List Work.Event} {v' : Vault}
      (hkind : c.kind = .update) (hkey : StorageKey.primaryKey? c.storageKey = some key)
      (hdata : c.data = some e) (hold : v.records.get? key = some old)
      (hother : old.naturalKey ≠ e.record.naturalKey)
      (hplaced : Placed replacing (v.drop key) e key' cs es v') :
      Applied replacing v c (⟨.remove, key, old⟩ :: cs)
        (.write [.clear key.storageKey] :: es) v'
  | deleted {c : RemoteChange} {key : PrimaryKey} {old : Record}
      (hkind : c.kind = .delete) (hkey : StorageKey.primaryKey? c.storageKey = some key)
      (hold : v.records.get? key = some old) :
      Applied replacing v c [⟨.remove, key, old⟩] [.write [.clear c.storageKey]] (v.drop key)

/-- What remote changes do, one after another. -/
inductive AppliedAll (replacing : Bool) :
    Vault → List RemoteChange → List LocalChange → List Work.Event → Vault → Prop where
  | nil (v : Vault) : AppliedAll replacing v [] [] [] v
  | cons {v v' v'' : Vault} {c : RemoteChange} {remote : List RemoteChange}
      {cs ds : List LocalChange} {es fs : List Work.Event} (h : Applied replacing v c cs es v')
      (hs : AppliedAll replacing v' remote ds fs v'') :
      AppliedAll replacing v (c :: remote) (cs ++ ds) (es ++ fs) v''

namespace Vault

/-! ## 1. Additions -/

theorem edit_add {v v' : Vault} {r : Record} {replacing : Bool} {cs : List LocalChange}
    (h : v.edit replacing (.add r) = some (cs, v')) :
    ∃ key, PrimaryKey.next? (v.makeRoom replacing r).2.lastKey = some key ∧
      cs = (v.makeRoom replacing r).1 ++ [⟨.add, key, r⟩] ∧
      v' = (v.makeRoom replacing r).2.insertNew key r := by
  obtain ⟨⟨added, w⟩, hadd, he⟩ := Option.map_eq_some_iff.1 h
  obtain ⟨key, hkey, hw⟩ := Option.map_eq_some_iff.1 hadd
  cases he
  cases hw
  exact ⟨key, hkey, rfl, rfl⟩

end Vault

section Steps

variable {replacing : Bool} {v v' : Vault} {cs : List LocalChange} {es : List Work.Event}

/-- The changes of a placed entity are steps. -/
theorem Placed.steps {e : Entity} {key : PrimaryKey} (h : Placed replacing v e key cs es v') :
    Vault.Steps v cs v' := by
  cases h with
  | mk hkey =>
    exact (Vault.steps_makeRoom replacing v e.record).append
      (.single (.add _ _ _ (PrimaryKey.lt_of_next? hkey)))

/-- The changes that a remote change makes are steps. -/
theorem Applied.steps {c : RemoteChange} (h : Applied replacing v c cs es v') :
    Vault.Steps v cs v' := by
  cases h with
  | added _ _ hplaced => exact hplaced.steps
  | overwrote _ _ _ hold hsame => exact .single (.update _ _ _ _ hold hsame)
  | moved _ _ _ hold _ hplaced => exact .cons (.remove _ _ _ hold) hplaced.steps
  | deleted _ _ hold => exact .single (.remove _ _ _ hold)

theorem AppliedAll.steps {remote : List RemoteChange} (h : AppliedAll replacing v remote cs es v') :
    Vault.Steps v cs v' := by
  induction h with
  | nil v => exact .nil v
  | cons hc _ ih => exact hc.steps.append ih

end Steps

/-! ## 2. Steps of an application -/

namespace Apply

variable {π : Type} [Processor π] {s s' : Scope π}

/-- Clearing the metadata of what an addition has removed. -/
theorem clearRemoved_ok {cs : List LocalChange} {c : LocalChange} {key? : Option PrimaryKey}
    {removed : List PrimaryKey} (hcs : ∀ c ∈ cs, c.kind = .remove) (hc : c.kind = .add)
    (h : (Merge.clearRemoved (cs ++ [c])).perform s = (.ok (key?, removed), s')) :
    Did s [] (clearings cs) s' ∧ s'.store.vault = s.store.vault ∧ key? = some c.key ∧
      removed = cs.map (·.key) := by
  induction cs generalizing s key? removed with
  | nil =>
    unfold Merge.clearRemoved at h
    simp only [List.nil_append, hc] at h
    cases h
    exact ⟨.refl _, rfl, rfl, rfl⟩
  | cons c' cs ih =>
    unfold Merge.clearRemoved at h
    simp only [List.cons_append, hcs c' List.mem_cons_self] at h
    obtain ⟨_, t, hwrite, hrest⟩ := ok_of_bind h
    obtain ⟨⟨k?, rem⟩, u, hclear, hrest⟩ := ok_of_bind hrest
    cases hrest
    obtain ⟨hdid, hvault⟩ := did_write hwrite
    obtain ⟨hdid', hvault', rfl, rfl⟩ := ih (fun c hc => hcs c (List.mem_cons_of_mem _ hc)) hclear
    exact ⟨hdid.trans hdid', hvault'.trans hvault, rfl, rfl⟩

/-- Adding an entity. -/
theorem addEntity_ok {e : Entity} {key : PrimaryKey} (hq : s.store.Quiet)
    (h : (addEntity e).perform s = (.ok key, s')) :
    ∃ cs es, Placed s.store.replaces s.store.vault e key cs es s'.store.vault ∧ Did s cs es s' := by
  obtain ⟨cs, t, hadd, hrest⟩ := ok_of_bind h
  obtain ⟨hdid, hedit⟩ := did_change (e := .add e.record) hq hadd
  obtain ⟨k, hk, rfl, hvault⟩ := Vault.edit_add hedit
  obtain ⟨⟨key?, removed⟩, u, hclear, hrest⟩ := ok_of_bind hrest
  obtain ⟨hdid₁, hvault₁, rfl, -⟩ := clearRemoved_ok Vault.kind_of_makeRoom rfl hclear
  obtain ⟨_, w, hassign, hrest⟩ := ok_of_bind hrest
  cases hrest
  obtain ⟨hdid₂, hvault₂⟩ := did_tell (c := .assignKey k.storageKey e) hassign
  have hall := hdid.trans (hdid₁.trans hdid₂)
  simp only [List.append_nil, List.nil_append] at hall
  refine ⟨_, _, ?_, hall⟩
  rw [hvault₂, hvault₁, hvault]
  exact .mk hk

omit [Processor π] in
/-- The record under a storage key. -/
theorem residentKey_ok {text : StorageKey} {key : PrimaryKey}
    (h : (residentKey text).perform s = (.ok key, s')) :
    s' = s ∧ StorageKey.primaryKey? text = some key ∧
      ∃ r, s.store.vault.records.get? key = some r := by
  obtain ⟨k, t, hkey, hrest⟩ := ok_of_bind h
  rw [perform_ofExcept, StorageKey.primaryKey] at hkey
  cases hk : StorageKey.primaryKey? text with
  | none =>
    rw [hk] at hkey
    cases hkey
  | some k' =>
    rw [hk] at hkey
    cases hkey
    obtain ⟨r?, u, hread, hrest⟩ := ok_of_bind hrest
    obtain ⟨rfl, hread⟩ := did_read (Store.reads_record? k) hread
    obtain ⟨-, rfl⟩ := Store.ok_of_record? hread
    cases hr : u.store.vault.records.get? k with
    | none =>
      rw [hr] at hrest
      cases hrest
    | some r =>
      rw [hr] at hrest
      cases hrest
      exact ⟨rfl, rfl, r, hr⟩

omit [Processor π] in
theorem requireData_ok {c : RemoteChange} {e : Entity}
    (h : (requireData c).perform s = (.ok e, s')) : s' = s ∧ c.data = some e := by
  unfold requireData at h
  cases hdata : c.data with
  | none =>
    rw [hdata] at h
    cases h
  | some e' =>
    rw [hdata] at h
    cases h
    exact ⟨rfl, rfl⟩

/-- Updating a record: in place, or by moving it. -/
theorem updateEntity_ok {c : RemoteChange} {e : Entity} {key : PrimaryKey} {old : Record}
    (hq : s.store.Quiet) (hkind : c.kind = .update)
    (hkey : StorageKey.primaryKey? c.storageKey = some key) (hdata : c.data = some e)
    (hold : s.store.vault.records.get? key = some old)
    (h : (updateEntity key e).perform s = (.ok (), s')) :
    ∃ cs es, Applied s.store.replaces s.store.vault c cs es s'.store.vault ∧ Did s cs es s' := by
  obtain ⟨cs, t, hupdate, hrest⟩ := ok_of_bind h
  obtain ⟨hdid, ⟨hholds, rfl, hvault⟩ | ⟨hholds, rfl, hvault⟩⟩ := Merge.updateAt_ok hupdate
  · cases hrest
    obtain ⟨old', hold', hsame⟩ := Vault.holds_iff.1 hholds
    refine ⟨_, _, ?_, hdid⟩
    rw [hvault]
    exact .overwrote hkind hkey hdata hold' hsame
  · have hother : old.naturalKey ≠ e.record.naturalKey := fun hsame => by
      rw [Vault.holds_iff.2 ⟨old, hold, hsame⟩] at hholds
      cases hholds
    obtain ⟨ds, u, hremove, hrest⟩ := ok_of_bind hrest
    obtain ⟨hdid₁, hvault₁⟩ := Merge.remove_ok (hvault ▸ hold) hremove
    obtain ⟨_, w, hwrite, hrest⟩ := ok_of_bind hrest
    obtain ⟨hdid₂, hvault₂⟩ := did_write hwrite
    obtain ⟨key', x, hadd, hrest⟩ := ok_of_bind hrest
    cases hrest
    have hdid' := hdid.trans (hdid₁.trans hdid₂)
    obtain ⟨cs, es, hplaced, hdid₃⟩ := addEntity_ok (hdid'.steady.quiet hq) hadd
    rw [hdid'.steady.replaces, hvault₂, hvault₁, hvault] at hplaced
    exact ⟨_, _, .moved hkind hkey hdata hold hother hplaced, hdid'.trans hdid₃⟩

/-! ## 3. Applications -/

/-- **A change that is carried out.** -/
theorem applyChange_ok {c : RemoteChange} (hq : s.store.Quiet)
    (h : (applyChange c).perform s = (.ok (), s')) :
    ∃ cs es, Applied s.store.replaces s.store.vault c cs es s'.store.vault ∧ Did s cs es s' := by
  unfold applyChange at h
  cases hkind : c.kind with
  | add =>
    rw [hkind] at h
    obtain ⟨e, t, hrequire, hrest⟩ := ok_of_bind h
    obtain ⟨rfl, hdata⟩ := requireData_ok hrequire
    obtain ⟨key, u, hadd, hrest⟩ := ok_of_bind hrest
    cases hrest
    obtain ⟨cs, es, hplaced, hdid⟩ := addEntity_ok hq hadd
    exact ⟨cs, es, .added hkind hdata hplaced, hdid⟩
  | update =>
    rw [hkind] at h
    obtain ⟨key, t, hresident, hthen⟩ := ok_of_bind h
    obtain ⟨rfl, hkey, old, hold⟩ := residentKey_ok hresident
    obtain ⟨e, u, hrequire, hrest⟩ := ok_of_bind hthen
    obtain ⟨rfl, hdata⟩ := requireData_ok hrequire
    exact updateEntity_ok hq hkind hkey hdata hold hrest
  | delete =>
    rw [hkind] at h
    obtain ⟨key, t, hresident, hrest⟩ := ok_of_bind h
    obtain ⟨rfl, hkey, old, hold⟩ := residentKey_ok hresident
    obtain ⟨cs, u, hremove, hrest⟩ := ok_of_bind hrest
    obtain ⟨hdid, hvault⟩ := Merge.remove_ok hold hremove
    obtain ⟨hdid₁, hvault₁⟩ := did_write hrest
    refine ⟨_, _, ?_, hdid.trans hdid₁⟩
    rw [hvault₁, hvault]
    exact .deleted hkind hkey hold

/-- **All changes that are carried out.** -/
theorem applyChanges_ok {remote : List RemoteChange} {summary summary' : ApplySummary}
    (hq : s.store.Quiet) (h : (applyChanges summary remote).perform s = (.ok summary', s')) :
    ∃ cs es, AppliedAll s.store.replaces s.store.vault remote cs es s'.store.vault ∧ Did s cs es s' ∧
      summary' = remote.foldl (fun a c => a.count c.kind) summary := by
  induction remote generalizing s summary with
  | nil =>
    cases h
    exact ⟨[], [], .nil _, .refl _, rfl⟩
  | cons c remote ih =>
    obtain ⟨_, t, hchange, hrest⟩ := ok_of_bind h
    obtain ⟨cs, es, happlied, hdid⟩ := applyChange_ok hq hchange
    obtain ⟨ds, fs, happlied', hdid', hsummary⟩ := ih (hdid.steady.quiet hq) hrest
    rw [hdid.steady.replaces] at happlied'
    exact ⟨_, _, .cons happlied happlied', hdid.trans hdid', hsummary⟩

/-- **An application that succeeds.** At the end what the caller has collected is written. -/
theorem work_ok {remote : List RemoteChange} {summary : ApplySummary} (hq : s.store.Quiet)
    (h : (work remote).perform s = (.ok summary, s')) :
    ∃ cs es, AppliedAll s.store.replaces s.store.vault remote cs es s'.store.vault ∧
      Did s cs (es ++ [.write s.pending.writes]) { s' with pending := s.pending } ∧
      s'.pending = {} ∧ summary = remote.foldl (fun a c => a.count c.kind) {} := by
  obtain ⟨summary', t, hchanges, hrest⟩ := ok_of_bind h
  obtain ⟨cs, es, happlied, hdid, rfl⟩ := applyChanges_ok hq hchanges
  obtain ⟨_, u, hpending, hrest⟩ := ok_of_bind hrest
  rw [perform_writePending] at hpending
  cases hpending
  obtain ⟨_, w, hsettle, hreturn⟩ := ok_of_bind hrest
  obtain ⟨rfl, -⟩ := ok_of_settle hsettle
  cases hreturn
  obtain ⟨hdid₁, hvault₁⟩ := did_writes t.pending.writes { t with pending := {} }
  refine ⟨cs, es, ?_, ?_, hdid₁.pending, rfl⟩
  · rw [hvault₁]
    exact happlied
  · have hall := hdid.trans (hdid₁.setPending t.pending)
    rw [List.append_nil] at hall
    rw [← hdid.pending]
    exact hall

end Apply

end CredentialSync
