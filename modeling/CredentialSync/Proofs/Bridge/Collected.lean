import CredentialSync.Proofs.Bridge.Calls
import CredentialSync.Proofs.Bridge.Events

/-!
# The metadata that a caller has collected

A merge and an application of changes each consist of two parts: the remote changes are carried out
(`Merge.reconcile`, `Apply.applyChanges`), and then the metadata that the caller has collected is
written (`Merge.conclude`, `Apply.conclude`). The first part leaves the collected metadata alone; the
second one takes all of it out, whether it succeeds or fails (`Work.Drains`).

A failed call thus keeps the collected metadata if it fails before the second part, and loses it
otherwise (`sync_keeps_pending_iff`): the rollback brings back the store only.
-/

namespace CredentialSync

open Attempt

variable {π : Type} {α β : Type}

/-! ## 1. The two parts -/

namespace Work

/-- The work takes all collected metadata out. -/
def Drains (w : Work π α) : Prop := ∀ s, (w.perform s).2.pending = {}

theorem pending_change (e : Edit) (s : Scope π) :
    ((change e.attempt).perform s).2.pending = s.pending := by
  unfold change
  rw [perform_bind, onStore, perform_within]
  rcases e.attempt.perform s.store with ⟨_ | _, _⟩ <;> rfl

/-- Writing out the collected metadata, and anything after it that leaves such metadata alone. -/
theorem drains_writePending {f : Unit → Work π α}
    (hf : ∀ s, ((f ()).perform s).2.pending = s.pending) : Drains (writePending >>= f) := fun s => by
  rw [bind_of_ok (perform_writePending s), hf]
  exact (writes_keep _ _).2.2.2.1

variable [Processor π]

/-- **Direct work leaves the collected metadata alone.** -/
theorem Direct.pending {w : Work π α} (h : Direct w) (s : Scope π) :
    (w.perform s).2.pending = s.pending := by
  induction h generalizing s with
  | reads h => rw [h s]
  | change e => exact pending_change e s
  | write ws => exact (writes_keep ws s).2.2.2.1
  | tell c =>
    rw [perform_tell]
    exact (writes_keep _ _).2.2.2.1
  | bind _ _ hw hf =>
    rw [perform_bind]
    rcases hres : Attempt.perform _ s with ⟨_ | a, t⟩
    · have hkept := hw s
      rw [hres] at hkept
      exact hkept
    · have hkept := hw s
      rw [hres] at hkept
      exact (hf a t).trans hkept

end Work

namespace Merge

variable [Processor π]

/-- A merge up to the point where the collected metadata is written. -/
def reconcile (changes : List RemoteChange) : Work π MergeSummary := do
  let records ← Work.onStore Store.readAll
  let m ← mergeEntities (.ofRecords records) changes
  let localOnly ← announce m records.toList
  return { m.summary with localOnly }

/-- The end of a merge. -/
def conclude (summary : MergeSummary) : Work π MergeSummary := do
  let state := (← get).pending.stateAfterMerge
  Work.writePending
  Work.write [.setState state]
  Work.settle
  return summary

theorem work_eq (changes : List RemoteChange) :
    (work changes : Work π MergeSummary) = reconcile changes >>= conclude := by
  simp only [work, reconcile, conclude, bind_assoc, pure_bind]

theorem direct_reconcile (changes : List RemoteChange) :
    Work.Direct (reconcile changes : Work π MergeSummary) :=
  (Work.Direct.reads (Work.reads_onStore Store.reads_readAll)).bind fun _ =>
    (Work.direct_mergeEntities _ _).bind fun _ => (Work.direct_announceUnmet _ _).bind fun _ =>
    .pure _

theorem drains_conclude (summary : MergeSummary) :
    Work.Drains (conclude summary : Work π MergeSummary) := fun s => by
  have htail : Work.Direct (Work.write [.setState s.pending.stateAfterMerge] >>= fun _ =>
      Work.settle >>= fun _ => pure summary : Work π MergeSummary) :=
    (Work.Direct.write _).bind fun _ => Work.Direct.settle.bind fun _ => .pure summary
  rw [conclude, perform_bind, perform_get]
  exact Work.drains_writePending htail.pending s

end Merge

namespace Apply

variable [Processor π]

/-- The end of an application of changes. -/
def conclude (summary : ApplySummary) : Work π ApplySummary := do
  Work.writePending
  Work.settle
  return summary

theorem work_eq (changes : List RemoteChange) :
    (work changes : Work π ApplySummary) = applyChanges {} changes >>= conclude := rfl

theorem drains_conclude (summary : ApplySummary) : Work.Drains (conclude summary : Work π _) :=
  Work.drains_writePending (Work.Direct.pending (Work.Direct.settle.bind fun _ => .pure summary))

end Apply

variable [Processor π]

namespace Device

/-! ## 2. Batches of two parts -/

/-- The transaction begins, and the first part of the work succeeds. -/
def GetsThrough (w : Work π α) (d : Device π) : Prop :=
  ∃ s, Store.begin.perform d.store = (.ok (), s) ∧
    ∃ a t, w.perform (d.withStore s).scope = (.ok a, t)

/-- What a batch of work leaves of the collected metadata: what the work has left, if it began. -/
theorem Batched.pending {batcher : Batcher} {w : Work π α} {d d' : Device π}
    {o : BatchOutcome (Except SyncError α)} (h : Batched batcher .remote (body w) d o d') :
    (∀ s, Store.begin.perform d.store = (.ok (), s) →
        d'.pending = (w.perform (d.withStore s).scope).2.pending) ∧
      ((∀ s, Store.begin.perform d.store ≠ (.ok (), s)) → d'.pending = d.pending) := by
  cases h with
  | refused hbegin =>
    refine ⟨fun s hs => ?_, fun _ => rfl⟩
    rw [hbegin] at hs
    cases hs
  | @abandoned s e hbegin hfail =>
    refine ⟨fun t ht => ?_, fun hnot => absurd hbegin (hnot s)⟩
    rw [hbegin] at ht
    cases ht
    cases batcher <;> rfl
  | @committed s t hbegin hbody hcommit =>
    refine ⟨fun u hu => ?_, fun hnot => absurd hbegin (hnot s)⟩
    rw [hbegin] at hu
    cases hu
    rw [(told_remote _ _).pending]
    cases batcher <;> rfl

/-- **Work of two parts keeps the collected metadata if it does not get through the first part, and
    takes all of it out if it does.** -/
theorem pending_of_parts {first : Work π α} {second : α → Work π β} (hfirst : first.Direct)
    (hsecond : ∀ a, (second a).Drains) (d : Device π) :
    (d.GetsThrough first → (d.batch .bridge .remote (body (first >>= second))).2.pending = {}) ∧
      (¬ d.GetsThrough first →
        (d.batch .bridge .remote (body (first >>= second))).2.pending = d.pending) := by
  obtain ⟨hbegun, hrefused⟩ := (batched .bridge .remote (body (first >>= second)) d).pending
  constructor
  · rintro ⟨s, hbegin, a, t, hres⟩
    rw [hbegun s hbegin, bind_of_ok hres]
    exact hsecond a t
  · intro hnot
    by_cases hbegin : ∃ s, Store.begin.perform d.store = (.ok (), s)
    · obtain ⟨s, hbegin⟩ := hbegin
      rw [hbegun s hbegin, perform_bind]
      have hkept := hfirst.pending (d.withStore s).scope
      rcases hres : first.perform (d.withStore s).scope with ⟨e | a, t⟩
      · rw [hres] at hkept
        exact hkept
      · exact absurd ⟨s, hbegin, a, t, hres⟩ hnot
    · exact hrefused fun s hs => hbegin ⟨s, hs⟩

/-! ## 3. Failed calls -/

theorem merge_pending (changes : List RemoteChange) (d : Device π) :
    ((merge changes).perform d).2.pending =
      (d.batch .bridge .remote (body (Merge.work changes))).2.pending := by
  rw [merge_perform]
  cases (d.batch .bridge .remote (body (Merge.work changes))).1.result <;> rfl

theorem apply_pending (changes : List RemoteChange) (d : Device π) :
    ((apply changes).perform d).2.pending =
      (d.batch .bridge .remote (body (Apply.work changes))).2.pending := by
  rw [apply_perform]
  cases (d.batch .bridge .remote (body (Apply.work changes))).1.result <;> rfl

omit [Processor π] in
/-- What is kept unless it is taken out. -/
theorem kept_iff {p p' : PendingMetadata} {through : Prop} (hout : through → p' = {})
    (hkept : ¬ through → p' = p) : p' = p ↔ p = {} ∨ ¬ through := by
  by_cases h : through
  · rw [hout h]
    simp [h, eq_comm]
  · simp [h, hkept h]

/-- **A failed call keeps the collected metadata exactly if there is none, or if it has failed before
    all remote changes were carried out.** A failure behind that point, to write metadata or to commit,
    leaves nothing of it. -/
theorem sync_keeps_pending_iff (changes : List RemoteChange) (d : Device π) :
    (∀ e, ((merge changes).perform d).1 = .error e →
      (((merge changes).perform d).2.pending = d.pending ↔
          d.pending = {} ∨ ¬ d.GetsThrough (Merge.reconcile changes)) ∧
        (d.GetsThrough (Merge.reconcile changes) → ((merge changes).perform d).2.pending = {})) ∧
      ∀ e, ((apply changes).perform d).1 = .error e →
        (((apply changes).perform d).2.pending = d.pending ↔
            d.pending = {} ∨ ¬ d.GetsThrough (Apply.applyChanges {} changes)) ∧
          (d.GetsThrough (Apply.applyChanges {} changes) →
            ((apply changes).perform d).2.pending = {}) := by
  obtain ⟨hmergeOut, hmergeKept⟩ :=
    pending_of_parts (Merge.direct_reconcile changes) Merge.drains_conclude d
  obtain ⟨happlyOut, happlyKept⟩ :=
    pending_of_parts (Work.direct_applyChanges {} changes) Apply.drains_conclude d
  rw [← Merge.work_eq, ← merge_pending] at hmergeOut hmergeKept
  rw [← Apply.work_eq, ← apply_pending] at happlyOut happlyKept
  exact ⟨fun _ _ => ⟨kept_iff hmergeOut hmergeKept, hmergeOut⟩,
    fun _ _ => ⟨kept_iff happlyOut happlyKept, happlyOut⟩⟩

/-- A device whose table cannot commit, with metadata that waits to be written. -/
def burdened : Device Recorder :=
  { store := .table { faults := { commits := true } }
    processor := {}
    pending := ({} : PendingMetadata).push (.set "42" {})
    notifier := .ofCapacity 1 }

/-- The device when its table is no longer told to fail. -/
def mended (d : Device π) : Device π :=
  match d.store with
  | .table t => d.withStore (.table { t with faults := {} })
  | .database _ => d

theorem burdened_keeps_iff :
    (((merge []).perform burdened).1 = .error (.storeFailure "injected commit failure") ∧
      (((merge []).perform burdened).2.pending = burdened.pending ↔
        burdened.pending = {} ∨ ¬ burdened.GetsThrough (Merge.reconcile []))) ∧
      ((apply []).perform burdened).1 = .error (.storeFailure "injected commit failure") ∧
      (((apply []).perform burdened).2.pending = burdened.pending ↔
        burdened.pending = {} ∨ ¬ burdened.GetsThrough (Apply.applyChanges {} [])) :=
  ⟨⟨rfl, ((sync_keeps_pending_iff [] burdened).1 _ rfl).1⟩,
    rfl, ((sync_keeps_pending_iff [] burdened).2 _ rfl).1⟩

/-- After the failed call the collected metadata is gone, and repeating the call, which then succeeds,
    does not write it; without the fault the first call would have done so. -/
theorem burdened_loses :
    ((apply []).perform burdened).1 = .error (.storeFailure "injected commit failure") ∧
      ((apply []).perform burdened).2.pending ≠ burdened.pending ∧
      ((apply []).perform (mended ((apply []).perform burdened).2)).1 = .ok {} ∧
      ((apply []).perform (mended ((apply []).perform burdened).2)).2.store.metadata = .values {} ∧
      ((apply []).perform (mended burdened)).2.store.metadata ≠ .values {} := by
  refine ⟨rfl, by decide +kernel, rfl, rfl, fun h => ?_⟩
  have hbatch := StoredMetadata.values.inj h
  have hsize : 1 = 0 := congrArg (·.entities.size) hbatch
  cases hsize

end Device

end CredentialSync
