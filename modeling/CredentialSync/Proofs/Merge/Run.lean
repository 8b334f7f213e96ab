import CredentialSync.Proofs.Merge.Fate

/-!
# Runs of a merge

A merge that succeeds, on a store that is not told to fail, gives every remote entity a fate
(`mergeEntity_ok`, `mergeEntities_ok`) and then announces the records that none has met
(`announce_ok`). `work_ok` puts the parts together.

What is done with one entity has two parts (`mergeEntity_eq`): a record is looked for that takes it over
or makes room for it (`prepare`), and if none has taken it over it is added (`enter`).
-/

namespace CredentialSync

open Attempt Work

namespace Vault

theorem updateAt_eq (v : Vault) (key : PrimaryKey) (r : Record) :
    v.updateAt key r = if v.holds r key then ([⟨.update, key, r⟩], v.put key r) else ([], v) := by
  unfold updateAt holds
  cases v.records.get? key <;> simp

/-- No record has to make room if none has the natural key. -/
theorem makeRoom_of_find? {v : Vault} {r : Record} (h : v.find? r.naturalKey = none)
    (replacing : Bool) : v.makeRoom replacing r = ([], v) := by
  unfold makeRoom clear
  rw [h]
  exact ite_self _

/-- Adding a record whose natural key no record has. -/
theorem edit_add_of_find? {v v' : Vault} {r : Record} {replacing : Bool} {cs : List LocalChange}
    (hfind : v.find? r.naturalKey = none) (h : v.edit replacing (.add r) = some (cs, v')) :
    ∃ key, PrimaryKey.next? v.lastKey = some key ∧ cs = [⟨.add, key, r⟩] ∧ v' = v.insertNew key r := by
  rw [edit, makeRoom_of_find? hfind, add] at h
  cases hkey : PrimaryKey.next? v.lastKey with
  | none => simp [hkey] at h
  | some key =>
    simp only [hkey, Option.map_some, List.nil_append, Option.some.injEq, Prod.mk.injEq] at h
    exact ⟨key, rfl, h.1.symm, h.2.symm⟩

/-- A natural key that no record has is not there after a removal either. -/
theorem find?_drop {v : Vault} {nk : NaturalKey} (h : v.find? nk = none) (key : PrimaryKey) :
    (v.drop key).find? nk = none := by
  refine find?_eq_none.2 fun k r hr => ?_
  rw [records_drop, SortedMap.get?_erase] at hr
  split at hr
  · cases hr
  · exact find?_eq_none.1 h k r hr

end Vault

namespace Merge

variable {π : Type} [Processor π] {s s' : Scope π}

/-! ## 1. Single steps -/

/-- Overwriting the record under a key, if it has the same natural key. -/
theorem updateAt_ok {key : PrimaryKey} {r : Record} {cs : List LocalChange}
    (h : (Work.updateAt key r).perform s = (.ok cs, s')) : Did s cs [] s' ∧
      ((s.store.vault.holds r key = true ∧ cs = [⟨.update, key, r⟩] ∧
        s'.store.vault = s.store.vault.put key r) ∨
      (s.store.vault.holds r key = false ∧ cs = [] ∧ s'.store.vault = s.store.vault)) := by
  obtain ⟨hdid, hedit⟩ := did_reported (e := .updateAt key r) (Store.reports_updateAt _ _ _) h
  refine ⟨hdid, ?_⟩
  rw [Vault.edit, Vault.updateAt_eq] at hedit
  cases hholds : s.store.vault.holds r key <;>
    simp only [hholds, Bool.false_eq_true, if_true, if_false, Option.some.injEq,
      Prod.mk.injEq] at hedit
  · exact .inr ⟨rfl, hedit.1.symm, hedit.2.symm⟩
  · exact .inl ⟨rfl, hedit.1.symm, hedit.2.symm⟩

/-- The first record with the natural key is overwritten, if there is one. -/
theorem overwriteFirst_ok {r : Record} {keys : List PrimaryKey} {res : Option PrimaryKey}
    (h : (overwriteFirst r keys).perform s = (.ok res, s')) :
    res = keys.find? (s.store.vault.holds r) ∧
      ((∃ key, res = some key ∧ Did s [⟨.update, key, r⟩] [] s' ∧
        s'.store.vault = s.store.vault.put key r) ∨
      (res = none ∧ Did s [] [] s' ∧ s'.store.vault = s.store.vault)) := by
  induction keys generalizing s with
  | nil =>
    cases h
    exact ⟨rfl, .inr ⟨rfl, .refl _, rfl⟩⟩
  | cons key keys ih =>
    obtain ⟨cs, t, hupdate, hrest⟩ := ok_of_bind h
    rw [List.find?_cons]
    rcases updateAt_ok hupdate with ⟨hdid, ⟨hholds, rfl, hvault⟩ | ⟨hholds, rfl, hvault⟩⟩
    · cases hrest
      rw [hholds]
      exact ⟨rfl, .inl ⟨key, rfl, hdid, hvault⟩⟩
    · rw [hholds]
      obtain ⟨hres, hcases⟩ := ih hrest
      rw [hvault] at hres hcases
      refine ⟨hres, hcases.imp (fun ⟨k, hk, hdid', hvault'⟩ => ?_) fun ⟨hk, hdid', hvault'⟩ => ?_⟩
      · exact ⟨k, hk, hdid.trans hdid', hvault'⟩
      · exact ⟨hk, hdid.trans hdid', hvault'⟩

/-- Removing a record. -/
theorem remove_ok {key : PrimaryKey} {r : Record} {cs : List LocalChange}
    (hr : s.store.vault.records.get? key = some r)
    (h : (Work.remove key).perform s = (.ok cs, s')) :
    Did s [⟨.remove, key, r⟩] [] s' ∧ s'.store.vault = s.store.vault.drop key := by
  obtain ⟨hdid, hedit⟩ := did_reported (e := .remove key) (Store.reports_remove _ _) h
  simp only [Vault.edit, Vault.remove, hr, Option.some.injEq, Prod.mk.injEq] at hedit
  obtain ⟨rfl, hvault⟩ := hedit
  exact ⟨hdid, hvault.symm⟩

/-- An entity whose natural key no record has becomes a new record. -/
theorem materialize_ok {e : Entity} {key : PrimaryKey} {removed : List PrimaryKey}
    (hreports : s.store.silences (.add e.record) = false)
    (hfind : s.store.vault.find? e.record.naturalKey = none)
    (h : (materialize e).perform s = (.ok (key, removed), s')) :
    removed = [] ∧ PrimaryKey.next? s.store.vault.lastKey = some key ∧
      s'.store.vault = s.store.vault.insertNew key e.record ∧
      Did s [⟨.add, key, e.record⟩]
        [.write [.set key.storageKey (.ofRemote e)], .call (.assignKey key.storageKey e)] s' := by
  obtain ⟨cs, t, hadd, hrest⟩ := ok_of_bind h
  obtain ⟨hdid, hedit⟩ := did_reported (e := .add e.record) hreports hadd
  obtain ⟨k, hk, rfl, hvault⟩ := Vault.edit_add_of_find? hfind hedit
  obtain ⟨⟨key?, rem⟩, u, hclear, hrest⟩ := ok_of_bind hrest
  cases hclear
  obtain ⟨_, w, hwrite, hrest⟩ := ok_of_bind hrest
  obtain ⟨_, x, hassign, hrest⟩ := ok_of_bind hrest
  cases hrest
  obtain ⟨hdid₁, hvault₁⟩ := did_write hwrite
  obtain ⟨hdid₂, hvault₂⟩ := did_tell (c := .assignKey k.storageKey e) hassign
  exact ⟨rfl, hk, hvault₂.trans (hvault₁.trans hvault), hdid.trans (hdid₁.trans hdid₂)⟩

/-- An entity that meets no candidate has a natural key that no record has. -/
theorem find?_of_meet_none {m : Merging} {v : Vault} {e : Entity} (hi : Indexed m v)
    (hmeet : m.meet? v e = none) : v.find? e.record.naturalKey = none := by
  refine Vault.find?_eq_none.2 fun key r hr hn => ?_
  have hkey : key ∈ m.candidates e.specifics.tag :=
    (hi.candidates _ _).2 ⟨r, hr, (Record.tag_eq hn).trans (Entity.tag_record e)⟩
  exact Merging.meet_none hmeet hkey hr hn

/-! ## 2. One entity -/

/-- What the first part of a step has found out. -/
structure Way where
  merging : Merging
  /-- Whether no record has taken over the entity, which then is to be added. -/
  free : Bool

omit [Processor π] in
/-- Finds a record that takes over an entity, or makes room for the entity. -/
def prepare (m : Merging) (e : Entity) : Work π Way := do
  let candidates := m.candidates e.specifics.tag
  match ← overwriteFirst e.record candidates with
  | some key =>
    Work.write [.set (PrimaryKey.storageKey key) (.ofRemote e)]
    return ⟨{ m.countMatched with matched := key :: m.matched }, false⟩
  | none =>
    match m.unmatched? candidates with
    | some old =>
      let _ ← Work.remove old
      Work.write [.clear (PrimaryKey.storageKey old)]
      return ⟨{ m.countMatched with replaced := old :: m.replaced }, true⟩
    | none => return ⟨m.countRemoteOnly, true⟩

/-- Adds an entity and notes its key. -/
def enter (m : Merging) (e : Entity) : Work π Merging := do
  let (key, removed) ← materialize e
  return { m with replaced := removed ++ m.replaced }.note e.specifics.tag key

/-- **A step of a merge prepares for an entity and then adds it, unless a record has taken it over.** -/
theorem mergeEntity_eq (m : Merging) (e : Entity) :
    (mergeEntity m e : Work π Merging) = (do
      let way ← prepare m e
      if way.free then enter way.merging e else return way.merging) := by
  unfold mergeEntity prepare
  simp only [bind_assoc]
  refine bind_congr fun key? => ?_
  cases key? with
  | some key => simp only [bind_assoc, pure_bind]; rfl
  | none =>
    simp only
    cases m.unmatched? (m.candidates e.specifics.tag) with
    | some old => simp only [bind_assoc, pure_bind]; rfl
    | none => simp only [pure_bind]; rfl

/-- What the first part of a step has done. -/
inductive Prepared (m : Merging) (e : Entity) (s : Scope π) : Way → Scope π → Prop where
  | overwrote {key : PrimaryKey} {t : Scope π} (hmeet : m.meet? s.store.vault e = some key)
      (hvault : t.store.vault = s.store.vault.put key e.record)
      (hdid : Did s [⟨.update, key, e.record⟩] [.write [.set key.storageKey (.ofRemote e)]] t) :
      Prepared m e s ⟨{ m.countMatched with matched := key :: m.matched }, false⟩ t
  | cleared {old : PrimaryKey} {r : Record} {t : Scope π} (hmeet : m.meet? s.store.vault e = none)
      (hvictim : m.victim? e = some old) (hold : s.store.vault.records.get? old = some r)
      (hvault : t.store.vault = s.store.vault.drop old)
      (hdid : Did s [⟨.remove, old, r⟩] [.write [.clear old.storageKey]] t) :
      Prepared m e s ⟨{ m.countMatched with replaced := old :: m.replaced }, true⟩ t
  | vacant {t : Scope π} (hmeet : m.meet? s.store.vault e = none) (hvictim : m.victim? e = none)
      (hvault : t.store.vault = s.store.vault) (hdid : Did s [] [] t) :
      Prepared m e s ⟨m.countRemoteOnly, true⟩ t

theorem prepare_ok {m : Merging} {e : Entity} {way : Way} (hi : Indexed m s.store.vault)
    (h : (prepare m e).perform s = (.ok way, s')) : Prepared m e s way s' := by
  obtain ⟨key?, t, hover, hrest⟩ := ok_of_bind h
  obtain ⟨hfind, ⟨key, rfl, hdid, hvault⟩ | ⟨rfl, hdid, hvault⟩⟩ := overwriteFirst_ok hover
  · obtain ⟨_, u, hwrite, hrest⟩ := ok_of_bind hrest
    cases hrest
    obtain ⟨hdid₁, hvault₁⟩ := did_write hwrite
    exact .overwrote hfind.symm (hvault₁.trans hvault) (hdid.trans hdid₁)
  · have hmeet : m.meet? s.store.vault e = none := hfind.symm
    simp only at hrest
    cases hvictim : m.victim? e with
    | some old =>
      rw [show m.unmatched? (m.candidates e.specifics.tag) = some old from hvictim] at hrest
      obtain ⟨r, hr, -⟩ := (hi.candidates _ _).1 (Merging.victim_mem hvictim).1
      obtain ⟨cs, u, hremove, hrest⟩ := ok_of_bind hrest
      obtain ⟨_, w, hwrite, hrest⟩ := ok_of_bind hrest
      cases hrest
      obtain ⟨hdid₁, hvault₁⟩ := remove_ok (hvault ▸ hr) hremove
      obtain ⟨hdid₂, hvault₂⟩ := did_write hwrite
      refine .cleared hmeet hvictim hr ?_ (hdid.trans (hdid₁.trans hdid₂))
      rw [hvault₂, hvault₁, hvault]
    | none =>
      rw [show m.unmatched? (m.candidates e.specifics.tag) = none from hvictim] at hrest
      cases hrest
      exact .vacant hmeet hvictim hvault hdid

/-- An entity that is to be added has a natural key that no record has. -/
theorem find?_of_prepare {m : Merging} {e : Entity} {way : Way} (hi : Indexed m s.store.vault)
    (h : (prepare m e).perform s = (.ok way, s')) (hfree : way.free = true) :
    s'.store.vault.find? e.record.naturalKey = none := by
  cases prepare_ok hi h with
  | overwrote => cases hfree
  | cleared hmeet _ _ hvault =>
    rw [hvault]
    exact Vault.find?_drop (find?_of_meet_none hi hmeet) _
  | vacant hmeet _ hvault =>
    rw [hvault]
    exact find?_of_meet_none hi hmeet

/-- An entity whose natural key no record has gets the next key, which is noted. -/
theorem enter_ok {m m' : Merging} {e : Entity} (hreports : s.store.silences (.add e.record) = false)
    (hfind : s.store.vault.find? e.record.naturalKey = none)
    (h : (enter m e).perform s = (.ok m', s')) :
    ∃ key, PrimaryKey.next? s.store.vault.lastKey = some key ∧ m' = m.note e.specifics.tag key ∧
      s'.store.vault = s.store.vault.insertNew key e.record ∧
      Did s [⟨.add, key, e.record⟩]
        [.write [.set key.storageKey (.ofRemote e)], .call (.assignKey key.storageKey e)] s' := by
  obtain ⟨⟨key, removed⟩, t, hnew, hrest⟩ := ok_of_bind h
  cases hrest
  obtain ⟨rfl, hkey, hvault, hdid⟩ := materialize_ok hreports hfind hnew
  exact ⟨key, hkey, rfl, hvault, hdid⟩

/-- **A merged entity has a fate.** -/
theorem mergeEntity_ok {m m' : Merging} {e : Entity} (hq : s.store.Quiet)
    (hi : Indexed m s.store.vault) (h : (mergeEntity m e).perform s = (.ok m', s')) :
    ∃ f, Fated m s.store.vault e f s'.store.vault m' ∧ Did s (f.changes e) (f.events e) s' := by
  rw [mergeEntity_eq] at h
  obtain ⟨way, t, hway, hrest⟩ := ok_of_bind h
  have hfind := find?_of_prepare hi hway
  cases prepare_ok hi hway with
  | @overwrote key _ hmeet hvault hdid =>
    cases hrest
    refine ⟨.overwrote key, ?_, hdid⟩
    rw [hvault]
    exact .overwrote hmeet
  | @cleared old r _ hmeet hvictim hr hvault hdid =>
    obtain ⟨key, hkey, rfl, hvault', hdid'⟩ :=
      enter_ok ((hdid.steady.quiet hq).reports _) (hfind rfl) hrest
    rw [hvault] at hkey hvault'
    refine ⟨.added key (some (old, r)), ?_, hdid.trans hdid'⟩
    rw [hvault']
    exact .replaced hmeet hvictim hr hkey
  | vacant hmeet hvictim hvault hdid =>
    obtain ⟨key, hkey, rfl, hvault', hdid'⟩ :=
      enter_ok ((hdid.steady.quiet hq).reports _) (hfind rfl) hrest
    rw [hvault] at hkey hvault'
    refine ⟨.added key none, ?_, hdid.trans hdid'⟩
    rw [hvault']
    exact .added hmeet hvictim hkey

/-! ## 3. All entities -/

/-- The changes that some fates make to the records. -/
def changesOf (fs : List (Entity × Fate)) : List LocalChange := fs.flatMap fun x => x.2.changes x.1

/-- What the processor is told of some fates. -/
def callsOf (fs : List (Entity × Fate)) : List ProcessorCall := fs.flatMap fun x => x.2.calls x.1

/-- What else some fates do. -/
def eventsOf (fs : List (Entity × Fate)) : List Work.Event := fs.flatMap fun x => x.2.events x.1

theorem filterMap_eventsOf (fs : List (Entity × Fate)) :
    (eventsOf fs).filterMap Work.Event.call? = callsOf fs := by
  induction fs with
  | nil => rfl
  | cons x fs ih =>
    rw [eventsOf, List.flatMap_cons, List.filterMap_append, Fate.filterMap_events]
    exact congrArg _ ih

/-- **All merged entities have fates.** -/
theorem mergeEntities_ok {m m' : Merging} {cs : List RemoteChange} (hq : s.store.Quiet)
    (hi : Indexed m s.store.vault) (h : (mergeEntities m cs).perform s = (.ok m', s')) :
    ∃ fs : List (Entity × Fate), cs.map (·.data) = fs.map (some ·.1) ∧
      Fates m s.store.vault fs s'.store.vault m' ∧ Did s (changesOf fs) (eventsOf fs) s' := by
  induction cs generalizing m s with
  | nil =>
    cases h
    exact ⟨[], rfl, .nil _ _, .refl _⟩
  | cons c cs ih =>
    unfold mergeEntities at h
    cases hdata : c.data with
    | none =>
      rw [hdata] at h
      cases h
    | some e =>
      rw [hdata] at h
      obtain ⟨m₁, t, hentity, hrest⟩ := ok_of_bind h
      obtain ⟨f, hfated, hdid⟩ := mergeEntity_ok hq hi hentity
      obtain ⟨fs, hdatas, hfates, hdids⟩ := ih (hdid.steady.quiet hq) (hfated.indexed hi) hrest
      refine ⟨(e, f) :: fs, ?_, .cons hfated hfates, hdid.trans hdids⟩
      rw [List.map_cons, List.map_cons, hdata, hdatas]

/-! ## 4. Announcing -/

/-- The records that no entity has met. -/
def unmet (m : Merging) (rs : List (PrimaryKey × Record)) : List (PrimaryKey × Record) :=
  rs.filter fun x => !m.isSettled x.1

/-- The announcement of a record. -/
def putOf (x : PrimaryKey × Record) : ProcessorCall := .put x.1.storageKey (Entity.ofRecord x.2)

theorem announce_ok {m : Merging} {rs : List (PrimaryKey × Record)} {n : Nat}
    (h : (announce m rs).perform s = (.ok n, s')) :
    Did s [] ((unmet m rs).map fun x => .call (putOf x)) s' ∧ s'.store.vault = s.store.vault ∧
      n = (unmet m rs).length := by
  induction rs generalizing s n with
  | nil =>
    cases h
    exact ⟨.refl _, rfl, rfl⟩
  | cons x rs ih =>
    unfold announce at h
    cases hsettled : m.isSettled x.1 with
    | true =>
      simp only [hsettled, if_true] at h
      rw [unmet, List.filter_cons, hsettled]
      exact ih h
    | false =>
      simp only [hsettled, Bool.false_eq_true, if_false] at h
      obtain ⟨_, t, hput, hrest⟩ := ok_of_bind h
      obtain ⟨k, u, hannounce, hrest⟩ := ok_of_bind hrest
      cases hrest
      obtain ⟨hdid, hvault⟩ := did_tell (c := putOf x) hput
      obtain ⟨hdid', hvault', rfl⟩ := ih hannounce
      rw [unmet, List.filter_cons, hsettled]
      exact ⟨hdid.trans hdid', hvault'.trans hvault, rfl⟩

/-! ## 5. The whole merge -/

/-- What a merge does in the end: what the caller has collected is written, and the model state. -/
def closing (p : PendingMetadata) : List Work.Event :=
  [.write p.writes, .write [.setState p.stateAfterMerge]]

/-- **A merge that succeeds.** -/
theorem work_ok {changes : List RemoteChange} {summary : MergeSummary} (hq : s.store.Quiet)
    (hv : s.store.vault.Sound) (h : (work changes).perform s = (.ok summary, s')) :
    ∃ (fs : List (Entity × Fate)) (m : Merging), changes.map (·.data) = fs.map (some ·.1) ∧
      Fates (.ofRecords s.store.vault.records) s.store.vault fs s'.store.vault m ∧
      Did s (changesOf fs) (eventsOf fs ++
        ((unmet m s.store.vault.records.toList).map fun x => .call (putOf x)) ++
        closing s.pending) { s' with pending := s.pending } ∧
      summary = { m.summary with
        localOnly := (unmet m s.store.vault.records.toList).length } := by
  obtain ⟨records, s, hread, hrest⟩ := ok_of_bind h
  obtain ⟨rfl, hread⟩ := did_read Store.reads_readAll hread
  obtain ⟨-, rfl⟩ := Store.ok_of_readAll hread
  obtain ⟨m, u, hmerge, hrest⟩ := ok_of_bind hrest
  obtain ⟨fs, hdatas, hfates, hdid⟩ := mergeEntities_ok hq (.ofRecords hv) hmerge
  obtain ⟨n, w, hannounce, hrest⟩ := ok_of_bind hrest
  obtain ⟨hdid', hvault', rfl⟩ := announce_ok hannounce
  obtain ⟨_, x, hget, hrest⟩ := ok_of_bind hrest
  cases hget
  obtain ⟨_, y, hpending, hrest⟩ := ok_of_bind hrest
  rw [perform_writePending] at hpending
  cases hpending
  obtain ⟨_, z, hwrite, hrest⟩ := ok_of_bind hrest
  obtain ⟨hdid₁, hvault₁⟩ := did_writes w.pending.writes { w with pending := {} }
  obtain ⟨hdid₂, hvault₂⟩ := did_write hwrite
  obtain ⟨_, z', hsettle, hreturn⟩ := ok_of_bind hrest
  obtain ⟨rfl, -⟩ := ok_of_settle hsettle
  cases hreturn
  have hsame : w.pending = s.pending := hdid'.pending.trans hdid.pending
  refine ⟨fs, m, hdatas, ?_, ?_, rfl⟩
  · rw [hvault₂, hvault₁]
    show Fates _ _ _ w.store.vault _
    rw [hvault']
    exact hfates
  · have hend : Did w [] (closing w.pending) { s' with pending := w.pending } :=
      (hdid₁.setPending w.pending).trans (hdid₂.setPending w.pending)
    have hall := (hdid.trans hdid').trans hend
    rw [hsame] at hall
    simpa using hall

end Merge

end CredentialSync
