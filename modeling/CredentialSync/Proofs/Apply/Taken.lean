import CredentialSync.Proofs.Apply.Applied
import CredentialSync.Proofs.Bridge.Calls

/-!
# Applications of a device

`Device.Taken` says what an application of remote changes that succeeds makes of a device whose store
is not told to fail: what each change has done, the batch that was committed, what the processor heard,
and what is in the metadata then. `apply_ok` proves it of every such application.
-/

namespace CredentialSync

open Attempt

variable {π : Type} [Processor π]

namespace Device

/-- What an application has made of a device, with the changes of the records and the events. -/
structure Taken (d : Device π) (remote : List RemoteChange) (summary : ApplySummary)
    (cs : List LocalChange) (es : List Work.Event) (d' : Device π) : Prop where
  applied : AppliedAll d.store.replaces d.store.vault remote cs es d'.store.vault
  batch : (d.batch .bridge .remote (body (Apply.work remote))).1 = .committed (.ok summary) cs
  summary : summary = remote.foldl (fun a c => a.count c.kind) {}
  heard : ∃ asked, (d'.processor, asked) =
      (es ++ [Work.Event.write d.pending.writes]).foldl Work.Event.hear (d.processor, []) ∧
    d'.store.metadata = asked.foldl StoredMetadata.apply d.store.metadata
  steady : d.store.Steady d'.store
  saved : d'.store.saved = none
  pending : d'.pending = {}

variable {d d' : Device π} {remote : List RemoteChange} {summary : ApplySummary}
  {cs : List LocalChange} {es : List Work.Event}

/-- Measuring plays no part in it. -/
theorem Taken.measure (h : Taken d remote summary cs es d') (metric : Metric) (value : Nat) :
    Taken d remote summary cs es (d'.measure metric value) :=
  ⟨h.applied, h.batch, h.summary, h.heard, h.steady, h.saved, h.pending⟩

theorem Taken.tally (h : Taken d remote summary cs es d') (g : Stats → Stats) :
    Taken d remote summary cs es (d'.tally g) :=
  ⟨h.applied, h.batch, h.summary, h.heard, h.steady, h.saved, h.pending⟩

/-- The committed batch of an application. -/
theorem taken_of_committed {ds : List LocalChange} (hquiet : d.store.Quiet)
    (hbatch : (d.batch .bridge .remote (body (Apply.work remote))).1 = .committed (.ok summary) ds)
    (h : Batched .bridge .remote (body (Apply.work remote)) d (.committed (.ok summary) ds) d') :
    ∃ cs es, Taken d remote summary cs es d' := by
  have hwritten := h.metadata (Work.made_apply remote).orderly (Work.settles_apply remote)
  obtain ⟨a, s, ha, hres, rfl, hbegun, hsteady, hcontent, hsaved, hsteady', hprocessor, hpending⟩ :=
    h.committed_work
  cases ha
  have hvault : d.begun.scope.store.vault = d.store.vault := Store.vault_congr hbegun
  have hvault' : d'.store.vault = s.store.vault := Store.vault_congr hcontent
  have hreplaces : d.begun.scope.store.replaces = d.store.replaces := hsteady.replaces
  obtain ⟨cs, es, happlied, hdid, hnothing, hsummary⟩ :=
    Apply.work_ok (hsteady.quiet hquiet) hres
  rw [hvault, hreplaces, ← hvault'] at happlied
  rw [hres] at hwritten
  have hchanges : s.changes = cs := hdid.changes
  refine ⟨cs, es, happlied, hchanges ▸ hbatch, hsummary, ⟨s.asked, ?_, hwritten⟩,
    hsteady.trans (hdid.steady.trans hsteady'), hsaved, hpending.trans hnothing⟩
  rw [hprocessor]
  exact hdid.heard

/-- **An application that succeeds.** -/
theorem apply_ok (hquiet : d.store.Quiet) (h : (apply remote).perform d = (.ok summary, d')) :
    ∃ cs es, Taken d remote summary cs es d' := by
  rw [apply_perform] at h
  have hbatched := batched .bridge .remote (body (Apply.work remote)) d
  rcases hbatched.result_cases with ⟨e, herror, -⟩ | ⟨a, ds, hok, hcommitted⟩
  · rw [herror] at h
    cases h
  · rw [hok] at h
    cases h
    rw [hcommitted] at hbatched
    obtain ⟨cs, es, htaken⟩ := taken_of_committed hquiet hcommitted hbatched
    exact ⟨cs, es, ((htaken.measure _ _).measure _ _).tally _⟩

end Device

end CredentialSync
