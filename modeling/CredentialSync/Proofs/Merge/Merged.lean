import CredentialSync.Proofs.Bridge.Calls
import CredentialSync.Proofs.Merge.Run

/-!
# Merges of a device

`Device.Merged` says what a merge that succeeds makes of a device whose store is not told to fail:
the fates of the entities, the batch that was committed, what the processor heard, and what is in the
metadata then. `merge_ok` proves it of every such merge.
-/

namespace CredentialSync

open Attempt

variable {π : Type} [Processor π]

namespace Device

/-- What a merge has made of a device, with the fates of the entities and its last bookkeeping. -/
structure Merged (d : Device π) (remote : List RemoteChange) (summary : MergeSummary)
    (fs : List (Entity × Fate)) (m : Merging) (d' : Device π) : Prop where
  entities : remote.map (·.data) = fs.map (some ·.1)
  fates : Fates (.ofRecords d.store.vault.records) d.store.vault fs d'.store.vault m
  batch : (d.batch .bridge .remote (body (Merge.work remote))).1 =
    .committed (.ok summary) (Merge.changesOf fs)
  summary : summary = { m.summary with
    localOnly := (Merge.unmet m d.store.vault.records.toList).length }
  heard : ∃ asked, (d'.processor, asked) = (Merge.eventsOf fs ++
      ((Merge.unmet m d.store.vault.records.toList).map fun x => Work.Event.call (Merge.putOf x)) ++
      Merge.closing d.pending).foldl Work.Event.hear (d.processor, []) ∧
    d'.store.metadata = asked.foldl StoredMetadata.apply d.store.metadata
  steady : d.store.Steady d'.store
  saved : d'.store.saved = none
  pending : d'.pending = {}

/-- A merge leaves nothing to be collected. -/
theorem pending_of_merge {s s' : Scope π} {remote : List RemoteChange} {summary : MergeSummary}
    (h : (Merge.work remote).perform s = (.ok summary, s')) : s'.pending = {} := by
  obtain ⟨_, _, -, h₁⟩ := ok_of_bind h
  obtain ⟨_, _, -, h₂⟩ := ok_of_bind h₁
  obtain ⟨_, _, -, h₃⟩ := ok_of_bind h₂
  obtain ⟨_, _, -, h₄⟩ := ok_of_bind h₃
  obtain ⟨_, x, hpending, h₅⟩ := ok_of_bind h₄
  obtain ⟨_, y, hwrite, h₆⟩ := ok_of_bind h₅
  obtain ⟨_, z, hsettle, hreturn⟩ := ok_of_bind h₆
  obtain ⟨rfl, -⟩ := Work.ok_of_settle hsettle
  cases hreturn
  rw [(Work.did_write hwrite).1.pending]
  rw [Work.perform_writePending] at hpending
  cases hpending
  exact (Work.writes_keep _ _).2.2.2.1

/-- Measuring plays no part in it. -/
theorem Merged.measure {d d' : Device π} {remote : List RemoteChange} {summary : MergeSummary}
    {fs : List (Entity × Fate)} {m : Merging} (h : Merged d remote summary fs m d')
    (metric : Metric) (value : Nat) : Merged d remote summary fs m (d'.measure metric value) :=
  ⟨h.entities, h.fates, h.batch, h.summary, h.heard, h.steady, h.saved, h.pending⟩

/-- The committed batch of a merge. -/
theorem merged_of_committed {d d' : Device π} {remote : List RemoteChange} {summary : MergeSummary}
    {cs : List LocalChange} (hquiet : d.store.Quiet) (hsound : d.store.vault.Sound)
    (hbatch : (d.batch .bridge .remote (body (Merge.work remote))).1 = .committed (.ok summary) cs)
    (h : Batched .bridge .remote (body (Merge.work remote)) d (.committed (.ok summary) cs) d') :
    ∃ fs m, Merged d remote summary fs m d' := by
  have hwritten := h.metadata (Work.made_merge remote).orderly (Work.settles_merge remote)
  obtain ⟨a, s, ha, hres, rfl, hbegun, hsteady, hcontent, hsaved, hsteady', hprocessor, hpending⟩ :=
    h.committed_work
  cases ha
  have hvault : d.begun.scope.store.vault = d.store.vault := Store.vault_congr hbegun
  have hvault' : d'.store.vault = s.store.vault := Store.vault_congr hcontent
  obtain ⟨fs, m, hdata, hfates, hdid, hsummary⟩ :=
    Merge.work_ok (hsteady.quiet hquiet) (hvault ▸ hsound) hres
  rw [hvault] at hfates hdid hsummary
  rw [← hvault'] at hfates
  rw [hres] at hwritten
  have hchanges : s.changes = Merge.changesOf fs := hdid.changes
  refine ⟨fs, m, hdata, hfates, hchanges ▸ hbatch, hsummary, ⟨s.asked, ?_, hwritten⟩,
    hsteady.trans (hdid.steady.trans hsteady'), hsaved, hpending.trans (pending_of_merge hres)⟩
  rw [hprocessor]
  exact hdid.heard

/-- **A merge that succeeds.** -/
theorem merge_ok {d d' : Device π} {remote : List RemoteChange} {summary : MergeSummary}
    (hquiet : d.store.Quiet) (hsound : d.store.vault.Sound)
    (h : (merge remote).perform d = (.ok summary, d')) : ∃ fs m, Merged d remote summary fs m d' := by
  rw [merge_perform] at h
  have hbatched := batched .bridge .remote (body (Merge.work remote)) d
  rcases hbatched.result_cases with ⟨e, herror, -⟩ | ⟨a, cs, hok, hcommitted⟩
  · rw [herror] at h
    cases h
  · rw [hok] at h
    cases h
    rw [hcommitted] at hbatched
    obtain ⟨fs, m, hmerged⟩ := merged_of_committed hquiet hsound hcommitted hbatched
    exact ⟨fs, m, (((hmerged.measure _ _).measure _ _).measure _ _).measure _ _⟩

end Device

end CredentialSync
