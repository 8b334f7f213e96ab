import CredentialSync.Proofs.Bridge.Commit
import CredentialSync.Proofs.Bridge.Failures
import CredentialSync.Proofs.Merge.Kept
import CredentialSync.Proofs.Merge.Success

/-!
# The index of a merge

A merge looks its records up in an index that it keeps by hand. `Merging.Exact` says that the index is
right: without the replaced keys, each client tag lists the resident records with this tag, each once.
It is so whenever the merge comes to the next entity, whatever the store is told to do
(`Device.ComesTo.indexed`). Hence an entity that is added has a natural key that no record has
(`Device.Adds.fresh`), and on a database no merge fails because an addition reports no new record
(`Device.failsWith_merge`).
-/

namespace CredentialSync

open Attempt Work

variable {π : Type} [Processor π]

/-! ## 1. One entity -/

namespace Merge

variable {s t : Scope π} {m m' : Merging} {e : Entity}

/-- Preparing for an entity keeps the bookkeeping in agreement with the records. -/
theorem indexed_prepare {way : Way} (hi : Indexed m s.store.vault)
    (h : (prepare m e).perform s = (.ok way, t)) : Indexed way.merging t.store.vault := by
  cases prepare_ok hi h with
  | overwrote hmeet hvault =>
    rw [hvault]
    exact (Fated.overwrote hmeet).indexed hi
  | cleared _ hvictim hold hvault =>
    rw [hvault]
    exact (hi.count m.countMatched.summary).drop hold (Merging.victim_mem hvictim).2
  | vacant _ _ hvault =>
    rw [hvault]
    exact hi.count m.countRemoteOnly.summary

theorem steady_mergeEntity (h : (mergeEntity m e).perform s = (.ok m', t)) :
    s.store.Steady t.store :=
  ((direct_mergeEntity m e).made.orderly.left h).steady

theorem steady_prepare {way : Way} (hi : Indexed m s.store.vault)
    (h : (prepare m e).perform s = (.ok way, t)) : s.store.Steady t.store := by
  cases prepare_ok hi h with
  | overwrote _ _ hdid => exact hdid.steady
  | cleared _ _ _ _ hdid => exact hdid.steady
  | vacant _ _ _ hdid => exact hdid.steady

/-- An addition that is not reported does not count as a new record. -/
theorem reports_of_materialize {x : PrimaryKey × List PrimaryKey}
    (h : (materialize e).perform s = (.ok x, t)) : s.store.silences (.add e.record) = false := by
  obtain ⟨cs, u, hadd, hrest⟩ := ok_of_bind h
  obtain ⟨-, ds, -, hcs⟩ := did_edit (e := .add e.record) hadd
  cases hsilent : s.store.silences (.add e.record) with
  | false => rfl
  | true =>
    -- without a reported addition there is no key, which is a failure
    rw [hsilent, if_pos rfl] at hcs
    subst hcs
    cases hrest

/-- Adding an entity keeps them in agreement. -/
theorem indexed_enter (hi : Indexed m s.store.vault)
    (hfind : s.store.vault.find? e.record.naturalKey = none)
    (h : (enter m e).perform s = (.ok m', t)) : Indexed m' t.store.vault := by
  obtain ⟨_, _, hnew, -⟩ := ok_of_bind h
  obtain ⟨key, hkey, rfl, hvault, -⟩ := enter_ok (reports_of_materialize hnew) hfind h
  rw [hvault]
  exact hi.insertNew e hkey

/-- **A merged entity keeps the bookkeeping in agreement with the records.** -/
theorem indexed_mergeEntity (hi : Indexed m s.store.vault)
    (h : (mergeEntity m e).perform s = (.ok m', t)) : Indexed m' t.store.vault := by
  rw [mergeEntity_eq] at h
  obtain ⟨way, u, hway, hrest⟩ := ok_of_bind h
  have hi' := indexed_prepare hi hway
  split at hrest
  · next hfree => exact indexed_enter hi' (find?_of_prepare hi hway hfree) hrest
  · cases hrest
    exact hi'

end Merge

/-! ## 2. Every iteration -/

/-- The index is right: without the replaced keys, each client tag lists the resident records with this
tag, each once, and no record that has taken over remote data has been replaced. -/
structure Merging.Exact (m : Merging) (v : Vault) : Prop where
  resident : ∀ tag key, key ∈ m.candidates tag ↔
    ∃ r, v.records.get? key = some r ∧ r.specifics.tag = tag
  nodup : ∀ tag, (m.candidates tag).Nodup
  apart : ∀ key ∈ m.matched, key ∉ m.replaced

theorem Indexed.exact {m : Merging} {v : Vault} (h : Indexed m v) : m.Exact v where
  resident := h.candidates
  nodup := h.nodup
  apart key hmatched hreplaced := by
    obtain ⟨r, hr⟩ := h.matched key hmatched
    rw [(h.replaced key hreplaced).1] at hr
    cases hr

namespace Device

variable {d : Device π} {remote rest : List RemoteChange} {m m' : Merging} {e : Entity}
  {t t' u : Scope π}

/-- A merge comes to some of its entities, with its bookkeeping and its scope. -/
inductive ComesTo (d : Device π) (remote : List RemoteChange) :
    List RemoteChange → Merging → Scope π → Prop where
  | start {s : Store} {records : SortedMap PrimaryKey Record} {t : Scope π}
      (hbegin : Store.begin.perform d.store = (.ok (), s))
      (hread : (Work.onStore Store.readAll).perform (d.withStore s).scope = (.ok records, t)) :
      ComesTo d remote remote (.ofRecords records) t
  | next {c : RemoteChange} {rest : List RemoteChange} {e : Entity} {m m' : Merging}
      {t t' : Scope π} (h : ComesTo d remote (c :: rest) m t) (hdata : c.data = some e)
      (hentity : (Merge.mergeEntity m e).perform t = (.ok m', t')) : ComesTo d remote rest m' t'

/-- From there on the merge goes through the entities that are left. -/
theorem ComesTo.goes_on (h : d.ComesTo remote rest m t) :
    ∃ s records u, Store.begin.perform d.store = (.ok (), s) ∧
      (Work.onStore Store.readAll).perform (d.withStore s).scope = (.ok records, u) ∧
      (Merge.mergeEntities (.ofRecords records) remote).perform u =
        (Merge.mergeEntities m rest).perform t := by
  induction h with
  | start hbegin hread => exact ⟨_, _, _, hbegin, hread, rfl⟩
  | @next c rest e m m' t t' _ hdata hentity ih =>
    obtain ⟨s, records, u, hbegin, hread, hrest⟩ := ih
    refine ⟨s, records, u, hbegin, hread, hrest.trans ?_⟩
    rw [Merge.mergeEntities, hdata]
    exact bind_of_ok hentity

theorem ComesTo.steady (h : d.ComesTo remote rest m t) : d.store.Steady t.store := by
  induction h with
  | start hbegin hread =>
    obtain ⟨rfl, -⟩ := did_read Store.reads_readAll hread
    exact (Store.begin_ok hbegin).2.2.2
  | next _ _ hentity ih => exact ih.trans (Merge.steady_mergeEntity hentity)

/-- **The bookkeeping agrees with the records whenever a merge comes to the next entity.** -/
theorem ComesTo.indexed (h : d.ComesTo remote rest m t) (hsound : d.store.vault.Sound) :
    Indexed m t.store.vault := by
  induction h with
  | start hbegin hread =>
    obtain ⟨rfl, hrecords⟩ := did_read Store.reads_readAll hread
    obtain ⟨-, rfl⟩ := Store.ok_of_readAll hrecords
    -- the records are still those from before the transaction
    have hcontent := (Store.begin_ok hbegin).2.2.1
    exact .ofRecords ((Store.vault_congr hcontent).symm ▸ hsound)
  | next _ _ hentity ih => exact Merge.indexed_mergeEntity ih hentity

/-- A merge comes to the addition of an entity: no record has taken the entity over. -/
inductive Adds (d : Device π) (remote : List RemoteChange) (e : Entity) : Scope π → Prop where
  | intro {c : RemoteChange} {rest : List RemoteChange} {m : Merging} {t u : Scope π}
      {way : Merge.Way} (h : d.ComesTo remote (c :: rest) m t) (hdata : c.data = some e)
      (hprepare : (Merge.prepare m e).perform t = (.ok way, u)) (hfree : way.free = true) :
      Adds d remote e u

theorem Adds.steady (h : d.Adds remote e u) (hsound : d.store.vault.Sound) :
    d.store.Steady u.store := by
  cases h with
  | intro hcomes _ hprepare =>
    exact hcomes.steady.trans (Merge.steady_prepare (hcomes.indexed hsound) hprepare)

/-- **No record has the natural key of an entity that is added.** -/
theorem Adds.fresh (h : d.Adds remote e u) (hsound : d.store.vault.Sound) :
    u.store.vault.find? e.record.naturalKey = none := by
  cases h with
  | intro hcomes _ hprepare hfree =>
    exact Merge.find?_of_prepare (hcomes.indexed hsound) hprepare hfree

end Device

/-! ## 3. Merges on a database -/

/-- Why a merge on a database fails. -/
inductive Merge.Obstacle : SyncError → Prop where
  | fault {e : SyncError} (h : e.IsFault) : Obstacle e
  | noData : Obstacle (.invalidEntity "remote entity without data")
  | metadata (detail : String) : Obstacle (.metadataFailure detail)

/-- That an addition reports no new record is none of the reasons. -/
theorem Merge.Obstacle.ne {e : SyncError} (h : Merge.Obstacle e) :
    e ≠ .storeFailure "add reported no new record" := by
  cases h with
  | fault h =>
    obtain ⟨fault, rfl⟩ := h
    exact fun he => fault.message_ne (SyncError.storeFailure.inj he)
  | noData | metadata => exact nofun

namespace Merge

variable {s t u : Scope π} {m : Merging} {e : Entity}

/-- **An addition whose natural key no record has is reported as a single addition.** -/
theorem reports_add (hreplaces : s.store.replaces = true)
    (hfind : s.store.vault.find? e.record.naturalKey = none) {cs : List LocalChange}
    (h : (Work.add e.record).perform s = (.ok cs, t)) : ∃ key, cs = [⟨.add, key, e.record⟩] := by
  obtain ⟨-, hedit⟩ := did_reported (e := .add e.record) (Store.reports_of_replaces hreplaces _) h
  obtain ⟨key, -, hcs, -⟩ := Vault.edit_add_of_find? hfind hedit
  exact ⟨key, hcs⟩

/-- **It fails only if the database does, and removes nothing.** -/
theorem failsWith_materialize (hreplaces : s.store.replaces = true)
    (hfind : s.store.vault.find? e.record.naturalKey = none) :
    (materialize e).FailsWith Obstacle s :=
  ((failsWith_change hreplaces (.add e.record)).mono fun _ => .fault).bind fun cs t hadd => by
    obtain ⟨key, rfl⟩ := reports_add hreplaces hfind hadd
    -- behind the addition nothing can fail
    exact Succeeds.failsWith ⟨_, _, rfl⟩

theorem failsWith_overwriteFirst (hreplaces : s.store.replaces = true) (r : Record)
    (keys : List PrimaryKey) : (overwriteFirst r keys).FailsWith Obstacle s := by
  induction keys generalizing s with
  | nil => exact failsWith_pure _ _
  | cons key keys ih =>
    refine ((failsWith_change hreplaces (.updateAt key r)).mono fun _ => .fault).bind
      fun cs t hupdate => ?_
    split
    · exact ih ((did_edit (e := .updateAt key r) hupdate).1.steady.replaces.trans hreplaces)
    · exact failsWith_pure _ _

theorem failsWith_prepare (hreplaces : s.store.replaces = true) (m : Merging) (e : Entity) :
    (prepare m e).FailsWith Obstacle s :=
  (failsWith_overwriteFirst hreplaces _ _).bind fun key? t hover => by
    cases key? with
    | some key => exact Succeeds.failsWith ⟨_, _, rfl⟩
    | none =>
      have hsteady := ((direct_overwriteFirst _ _).made.orderly.left hover).steady
      simp only
      split
      · next old _ =>
        have hchange := failsWith_change (hsteady.replaces.trans hreplaces) (.remove old)
        exact (hchange.mono fun _ => .fault).bind fun _ u _ => Succeeds.failsWith ⟨_, _, rfl⟩
      · exact failsWith_pure _ _

/-- **A step of a merge does not fail because its addition reports nothing.** -/
theorem failsWith_mergeEntity (hreplaces : s.store.replaces = true) (hi : Indexed m s.store.vault) :
    (mergeEntity m e).FailsWith Obstacle s := by
  rw [mergeEntity_eq]
  refine (failsWith_prepare hreplaces m e).bind fun way t hprepare => ?_
  split
  · next hfree =>
    have hsteady := steady_prepare hi hprepare
    exact (failsWith_materialize (hsteady.replaces.trans hreplaces)
      (find?_of_prepare hi hprepare hfree)).bind fun _ _ _ => failsWith_pure _ _
  · exact failsWith_pure _ _

theorem failsWith_mergeEntities {remote : List RemoteChange} (hreplaces : s.store.replaces = true)
    (hi : Indexed m s.store.vault) : (mergeEntities m remote).FailsWith Obstacle s := by
  induction remote generalizing m s with
  | nil => exact failsWith_pure _ _
  | cons c cs ih =>
    unfold mergeEntities
    split
    · exact failsWith_throw .noData _
    · next e _ =>
      refine (failsWith_mergeEntity hreplaces hi).bind fun m' t hentity => ?_
      exact ih ((steady_mergeEntity hentity).replaces.trans hreplaces)
        (indexed_mergeEntity hi hentity)

theorem failsWith_reconcile {remote : List RemoteChange} (hreplaces : s.store.replaces = true)
    (hsound : s.store.vault.Sound) : (reconcile remote).FailsWith Obstacle s := by
  have hread : (Work.onStore Store.readAll : Work π _).FailsWith Obstacle s := fun e t he =>
    .fault (Store.fault_of_either Database.faulty_readAll hreplaces e _
      (Prod.ext (Prod.mk.inj he).1 rfl))
  refine hread.bind fun records t hrecords => ?_
  obtain ⟨rfl, hstore⟩ := did_read Store.reads_readAll hrecords
  obtain ⟨-, rfl⟩ := Store.ok_of_readAll hstore
  refine (failsWith_mergeEntities hreplaces (.ofRecords hsound)).bind fun m t _ => ?_
  exact (announce_succeeds m _ t).failsWith.bind fun _ _ _ => failsWith_pure _ _

omit [Processor π] in
theorem failsWith_conclude (h : s.Blames) (summary : MergeSummary) :
    (conclude summary).FailsWith Obstacle s := by
  have hpending := blames_writes (s := { s with pending := {} }) h s.pending.writes
  have hstate := blames_writes hpending [.setState s.pending.stateAfterMerge]
  unfold conclude
  rw [failsWith_bind_of_ok (perform_get s), failsWith_bind_of_ok (perform_writePending s),
    failsWith_bind_of_ok (a := Work.write _) rfl]
  refine ((failsWith_settle hstate).mono fun e he => ?_).bind fun _ _ _ => failsWith_pure _ _
  obtain ⟨detail, rfl⟩ := he
  exact .metadata detail

theorem failsWith_work {remote : List RemoteChange} (hreplaces : s.store.replaces = true)
    (hsound : s.store.vault.Sound) (h : s.Blames) : (work remote).FailsWith Obstacle s := by
  rw [work_eq]
  refine (failsWith_reconcile hreplaces hsound).bind fun summary t hreconcile => ?_
  have hblames := (direct_reconcile remote).made.blames h
  rw [hreconcile] at hblames
  exact failsWith_conclude hblames summary

end Merge

namespace Device

variable {d : Device π} {remote : List RemoteChange}

/-- **A merge on a database fails for one of these reasons only.** -/
theorem failsWith_merge (hreplaces : d.store.replaces = true) (hsound : d.store.vault.Sound) :
    (merge remote).FailsWith Merge.Obstacle d := fun e d' he => by
  have hresult := merge_result remote d
  rw [he] at hresult
  refine failsWith_batch (fun _ => .fault) hreplaces (Work.made_merge remote)
    (fun s hbegin => ?_) hresult.symm
  obtain ⟨-, -, hcontent, hsteady⟩ := Store.begin_ok hbegin
  refine Merge.failsWith_work (hsteady.replaces.trans hreplaces) ?_ nofun
  exact (Store.vault_congr hcontent).symm ▸ hsound

/-- **The index of a merge is exact.** Whenever the merge comes to the next entity, it lists the
resident records, whatever the store is told to do. On a database an addition therefore meets no record
with its natural key: it is reported as a single addition and removes nothing, and no merge fails because
it is not reported. -/
theorem merge_index_exact (hsound : d.store.vault.Sound) (remote : List RemoteChange) :
    (∀ rest m t, d.ComesTo remote rest m t → m.Exact t.store.vault) ∧
      (d.store.replaces = true →
        (∀ e u, d.Adds remote e u →
          u.store.vault.find? e.record.naturalKey = none ∧
          (∀ cs v, (Work.add e.record).perform u = (.ok cs, v) →
            ∃ key, cs = [⟨.add, key, e.record⟩]) ∧
          ∀ key removed v, (Merge.materialize e).perform u = (.ok (key, removed), v) →
            removed = []) ∧
        ∀ d', (merge remote).perform d ≠
          (.error (.storeFailure "add reported no new record"), d')) := by
  refine ⟨fun rest m t h => (h.indexed hsound).exact, fun hreplaces => ⟨fun e u h => ?_, ?_⟩⟩
  · have hfresh := h.fresh hsound
    have hdatabase := (h.steady hsound).replaces.trans hreplaces
    refine ⟨hfresh, fun cs v hadd => Merge.reports_add hdatabase hfresh hadd, ?_⟩
    intro key removed v hnew
    exact (Merge.materialize_ok (Store.reports_of_replaces hdatabase _) hfresh hnew).1
  · exact fun d' he => (failsWith_merge hreplaces hsound _ _ he).ne rfl

/-- Of two entities with one client tag, the merge adds the second when it has added the first. -/
theorem colliding_adds : ∃ m t u,
    unwritten.ComesTo RemoteChange.colliding [.add (.sampleAt "http://x.com/")] m t ∧
      unwritten.Adds RemoteChange.colliding (.sampleAt "http://x.com/") u := by
  have hfree : ((do
      let m ← Merge.mergeEntity (.ofRecords {}) (.sampleAt "http://x.com")
      Merge.prepare m (.sampleAt "http://x.com/") : Work Recorder Merge.Way).perform
        unwritten.begun.scope).1.toOption.any (·.free) = true := by
    decide +kernel
  rcases hres : Attempt.perform _ unwritten.begun.scope with ⟨_ | way, u⟩ <;> rw [hres] at hfree
  · cases hfree
  · obtain ⟨m, t, hfirst, hprepare⟩ := ok_of_bind hres
    have hcomes : unwritten.ComesTo RemoteChange.colliding [.add (.sampleAt "http://x.com/")] m t :=
      .next (.start rfl rfl) rfl hfirst
    exact ⟨m, t, u, hcomes, .intro hcomes rfl hprepare hfree⟩

theorem merge_index_exact_colliding :
    unwritten.store.vault.Sound ∧ unwritten.store.replaces = true ∧
      (∃ m t, unwritten.ComesTo RemoteChange.colliding [.add (.sampleAt "http://x.com/")] m t ∧
        m.Exact t.store.vault) ∧
      (∃ u, unwritten.Adds RemoteChange.colliding (.sampleAt "http://x.com/") u ∧
        u.store.vault.find? (Entity.sampleAt "http://x.com/").record.naturalKey = none) ∧
      ∀ d', (merge RemoteChange.colliding).perform unwritten ≠
        (.error (.storeFailure "add reported no new record"), d') := by
  have hsound : unwritten.store.vault.Sound := Store.Reached.database.sound.vault
  obtain ⟨hexact, hdatabase⟩ := merge_index_exact hsound RemoteChange.colliding
  obtain ⟨hadds, hfails⟩ := hdatabase rfl
  obtain ⟨m, t, u, hcomes, hadd⟩ := colliding_adds
  exact ⟨hsound, rfl, ⟨m, t, hcomes, hexact _ _ _ hcomes⟩, ⟨u, hadd, (hadds _ _ hadd).1⟩, hfails⟩

end Device

end CredentialSync
