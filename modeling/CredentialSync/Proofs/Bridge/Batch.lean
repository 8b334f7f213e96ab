import CredentialSync.Proofs.Bridge.Scope
import CredentialSync.Proofs.Bridge.Write

/-!
# Batches

`Device.Batched` lists the three ways in which a batch ends, with what the device is then: refused
at the beginning, abandoned and rolled back, or committed and notified.

A batch that ends without a commit is to leave no trace (`Device.Restored`). With a body that leaves
the transaction to the batch (`Device.Tame`) it does so exactly if the body is contained
(`Batched.restored_iff`): its transaction is still open when it ends, or it has changed nothing
behind the end of it.
-/

namespace CredentialSync

open Attempt

variable {π : Type} [Processor π] {α β : Type}

namespace Device

/-- The device after its store has begun, ended or changed something. -/
def withStore (s : Store) (d : Device π) : Device π := { d with store := s }

/-- The device after a commit of some changes, before anyone is told. -/
def settled (batcher : Batcher) (changes : List LocalChange) (d : Device π) : Device π :=
  d.countBatch batcher Stats.addCommitted
    |>.measure .batchCommitted 1
    |>.measure .batchSize changes.length

/-- The device after everyone was told about a commit. -/
def told (side : Side) (changes : List LocalChange) (d : Device π) : Device π :=
  if changes.isEmpty then d else d.notify ⟨side, changes⟩

/-- How a batch ends, and with which device. -/
inductive Batched (batcher : Batcher) (side : Side) (body : Device π → Draft β × Device π)
    (d : Device π) : BatchOutcome β → Device π → Prop where
  | refused {e : SyncError} (hbegin : Store.begin.perform d.store = (.error e, d.store)) :
      Batched batcher side body d (.refused e) d
  | abandoned {s : Store} {e : SyncError} (hbegin : Store.begin.perform d.store = (.ok (), s))
      (hfail : (body (d.withStore s)).1.failure = some e ∨
        (body (d.withStore s)).1.failure = none ∧
          Store.commit.perform (body (d.withStore s)).2.store =
            (.error e, (body (d.withStore s)).2.store)) :
      Batched batcher side body d (.abandoned (body (d.withStore s)).1.value e)
        ((body (d.withStore s)).2.abandon batcher)
  | committed {s t : Store} (hbegin : Store.begin.perform d.store = (.ok (), s))
      (hbody : (body (d.withStore s)).1.failure = none)
      (hcommit : Store.commit.perform (body (d.withStore s)).2.store = (.ok (), t)) :
      Batched batcher side body d
        (.committed (body (d.withStore s)).1.value (body (d.withStore s)).1.changes)
        (((body (d.withStore s)).2.withStore t |>.settled batcher (body (d.withStore s)).1.changes)
          |>.told side (body (d.withStore s)).1.changes)

omit [Processor π] in
theorem onStore_perform {a : Attempt Store α} (d : Device π) :
    (onStore a).perform d = ((a.perform d.store).1, d.withStore (a.perform d.store).2) := rfl

theorem batched (batcher : Batcher) (side : Side) (body : Device π → Draft β × Device π)
    (d : Device π) : Batched batcher side body d (d.batch batcher side body).1
      (d.batch batcher side body).2 := by
  unfold batch
  rw [onStore_perform]
  rcases hbegin : Store.begin.perform d.store with ⟨e | _, s⟩
  · obtain rfl := Store.begin_error hbegin
    exact .refused hbegin
  · simp only
    cases hfail : (body (d.withStore s)).1.failure with
    | some e => exact .abandoned hbegin (.inl hfail)
    | none =>
      simp only
      rw [onStore_perform]
      rcases hcommit : Store.commit.perform (body (d.withStore s)).2.store with ⟨e | _, t⟩
      · obtain rfl := Store.commit_error hcommit
        exact .abandoned hbegin (.inr ⟨hfail, hcommit⟩)
      · exact .committed hbegin hfail hcommit

/-! ## 1. Batches without a commit -/

omit [Processor π] in
@[simp] theorem store_measure (m : Metric) (n : Nat) (d : Device π) :
    (d.measure m n).store = d.store :=
  rfl

/-- What the relay of the bridge has counted: records forwarded and batches skipped. -/
def relayed (d : Device π) : Option (UInt64 × UInt64) :=
  d.bridge.map fun b => (b.stats.relayed, b.stats.relaySkipped)

/-- The second device stands where the first one does: its store holds the same records, metadata
    and keys given out, a transaction is open if one was, and nobody was told of any change. -/
structure Restored (d d' : Device π) : Prop where
  content : d'.store.content = d.store.content
  isOpen : d'.store.isOpen = d.store.isOpen
  notifier : d'.notifier = d.notifier
  relayed : d'.relayed = d.relayed

/-- What a body does in a transaction that has just begun, if it leaves the transaction to the batch
    and everything but the store, the processor and the collected metadata alone. -/
structure TameAt (d d' : Device π) : Prop where
  notifier : d'.notifier = d.notifier
  bridge : d'.bridge = d.bridge
  steady : d.store.Steady d'.store
  transaction : d'.store.saved = some d.store.content ∨ d'.store.saved = none

/-- The body leaves the transaction to the batch. -/
def Tame (body : Device π → Draft β × Device π) : Prop :=
  ∀ d : Device π, d.store.saved = some d.store.content → TameAt d (body d).2

/-- When the body ends, its transaction is still open, or the store holds what it held before. -/
def Contained (body : Device π → Draft β × Device π) (d : Device π) : Prop :=
  ∀ s, Store.begin.perform d.store = (.ok (), s) →
    (body (d.withStore s)).2.store.isOpen = true ∨
      (body (d.withStore s)).2.store.content = d.store.content

omit [Processor π] in
/-- The store after a body was abandoned. -/
theorem abandon_cases {batcher : Batcher} {d : Device π} (hroll : d.store.CanRollBack) :
    (d.abandon batcher).store.content = d.store.saved.getD d.store.content ∧
      (d.abandon batcher).store.saved = none ∧ (d.abandon batcher).notifier = d.notifier ∧
      (d.abandon batcher).relayed = d.relayed := by
  obtain ⟨s, hperform, hcontent, hsaved, -⟩ := Store.rollback_perform hroll
  unfold abandon
  rw [onStore_perform, hperform]
  cases batcher with
  | separate => exact ⟨hcontent, hsaved, rfl, rfl⟩
  | bridge =>
    refine ⟨hcontent, hsaved, rfl, ?_⟩
    cases hb : d.bridge <;>
      simp [relayed, countBatch, tally, withStore, hb, Stats.addRolledBack, measure]

/-- **A batch without a commit leaves no trace exactly if its body is contained.** -/
theorem Batched.restored_iff {batcher : Batcher} {side : Side} {body : Device π → Draft β × Device π}
    {d d' : Device π} {o : BatchOutcome β} (h : Batched batcher side body d o d')
    (hfail : ∀ v cs, o ≠ .committed v cs) (hbody : Tame body) (hroll : d.store.CanRollBack) :
    Restored d d' ↔ Contained body d := by
  cases h with
  | refused hbegin =>
    refine ⟨fun _ s hs => ?_, fun _ => ⟨rfl, rfl, rfl, rfl⟩⟩
    rw [hbegin] at hs
    cases hs
  | committed => exact absurd rfl (hfail _ _)
  | @abandoned s e hbegin _ =>
    obtain ⟨hclosed, hsaved, hcontent, hsteady⟩ := Store.begin_ok hbegin
    have hopen : (d.withStore s).store.saved = some (d.withStore s).store.content := by
      rw [withStore, hsaved, hcontent]
    obtain ⟨hsameNotifier, hbridge, hbodySteady, htransaction⟩ := hbody _ hopen
    have hsteady' := hsteady.trans hbodySteady
    obtain ⟨habandoned, hended, hnotifier, hrelayed⟩ :=
      @abandon_cases _ batcher _ (hsteady'.canRollBack hroll)
    have hisOpen : d.store.isOpen = false := by rw [Store.isOpen_eq, hclosed]; rfl
    constructor
    · intro hrestored s' hs'
      obtain rfl : s = s' := by
        rw [hbegin] at hs'
        exact (Prod.mk.inj hs').2
      rcases htransaction with ht | ht
      · left
        rw [Store.isOpen_eq, ht]
        rfl
      · right
        rw [← hrestored.content, habandoned, ht]
        rfl
    · intro hcontained
      refine ⟨?_, ?_, hnotifier.trans hsameNotifier, ?_⟩
      · rw [habandoned]
        rcases htransaction with ht | ht
        · rw [ht]
          exact hcontent
        · rcases hcontained s hbegin with ho | hc
          · rw [Store.isOpen_eq, ht] at ho
            cases ho
          · rw [ht]
            exact hc
      · rw [Store.isOpen_eq, hended, hisOpen]
        rfl
      · rw [hrelayed]
        unfold relayed
        rw [hbridge]
        rfl

/-! ## 2. Orderly work as a body -/

omit [Processor π] in
theorem body_draft (w : Work π α) (d : Device π) :
    (body w d).1 = ⟨(w.perform d.scope).1, (w.perform d.scope).2.changes,
      match (w.perform d.scope).1 with
      | .ok _ => none
      | .error e => some e⟩ := rfl

omit [Processor π] in
theorem body_device (w : Work π α) (d : Device π) :
    (body w d).2 = d.putScope (w.perform d.scope).2 := rfl

omit [Processor π] in
/-- **Orderly work is tame.** -/
theorem tame_body {w : Work π α} (hw : w.Orderly) : Tame (body w) := fun d hd =>
  ⟨rfl, rfl, (hw d.scope).steady, ((hw d.scope).transaction _ hd).imp_right fun h => h.2.1⟩

omit [Processor π] in
/-- Orderly work is contained: where it ends the transaction, it has ended itself. -/
theorem contained_body {w : Work π α} (hw : w.Orderly) (d : Device π) : Contained (body w) d := by
  intro s hbegin
  obtain ⟨-, hsaved, -, -⟩ := Store.begin_ok hbegin
  rcases (hw (d.withStore s).scope).transaction _ hsaved with ht | ⟨-, -, hc⟩
  · left
    rw [Store.isOpen_eq]
    exact congrArg Option.isSome ht
  · exact .inr hc

/-- **A plain write is tame.** -/
theorem tame_write {w : Write β} (hw : w.Plain) : Tame (w.run [] : Device π → Draft β × Device π) := by
  intro d hd
  obtain ⟨s, hs, hsteady, hworked⟩ :=
    hw.worked (.refl d.store) (.kept hd rfl (.nil _) fun _ => rfl)
  rw [hs]
  refine ⟨rfl, rfl, hsteady, ?_⟩
  cases hworked with
  | kept hsaved => exact .inl hsaved
  | lost hsaved => exact .inr hsaved

/-! ## 3. Being told of remote changes -/

/-- What each call of the relay keeps, a notification keeps. -/
theorem notify_keeps {P : Device π → Prop} {batch : ChangeBatch}
    (hnotifier : ∀ n d, P d → P { d with notifier := n }) (hrelay : ∀ d, P d → P (d.relay batch))
    {d : Device π} (h : P d) : P (d.notify batch) := by
  unfold notify Notifier.notify
  refine hnotifier _ _ ?_
  have hcall : ∀ (os : List ObserverId) (d : Device π), P d →
      P (os.foldl (fun d o => if d.bridge.any (·.relay == o) then d.relay batch else d) d) := by
    intro os
    induction os with
    | nil => exact fun d hd => hd
    | cons o os ih =>
      intro d hd
      refine ih _ ?_
      dsimp only
      split
      · exact hrelay d hd
      · exact hd
  exact hcall _ _ (hnotifier _ _ h)

/-- What a device works with: its store, its processor and the metadata that its caller collected. -/
structure SameWork (d d' : Device π) : Prop where
  store : d'.store = d.store
  processor : d'.processor = d.processor
  pending : d'.pending = d.pending

omit [Processor π] in
theorem SameWork.refl (d : Device π) : SameWork d d := ⟨rfl, rfl, rfl⟩

omit [Processor π] in
theorem SameWork.measure {d d' : Device π} (h : SameWork d d') (metric : Metric) (value : Nat) :
    SameWork d (d'.measure metric value) := ⟨h.store, h.processor, h.pending⟩

omit [Processor π] in
theorem SameWork.tally {d d' : Device π} (h : SameWork d d') (f : Stats → Stats) :
    SameWork d (d'.tally f) := ⟨h.store, h.processor, h.pending⟩

/-- **Changes of the remote side are not relayed.** -/
theorem told_remote (changes : List LocalChange) (d : Device π) :
    SameWork d (d.told .remote changes) := by
  unfold told
  split
  · exact ⟨rfl, rfl, rfl⟩
  · refine notify_keeps (P := SameWork d) ?_ ?_ ⟨rfl, rfl, rfl⟩
    · rintro n d' ⟨hs, hp, hw⟩
      exact ⟨hs, hp, hw⟩
    · rintro d' ⟨hs, hp, hw⟩
      exact ⟨hs, hp, hw⟩

/-! ## 4. Batches with a commit -/

/-- The device whose store has tried to begin a transaction. -/
def begun (d : Device π) : Device π := d.withStore (Store.begin.perform d.store).2

omit [Processor π] in
theorem begun_of_ok {d : Device π} {s : Store} (h : Store.begin.perform d.store = (.ok (), s)) :
    d.begun = d.withStore s := by
  rw [begun, h]

/-- **A committed batch of work of the remote side.** The work has succeeded in a transaction that
    began at the device; what it left is what the device has now. -/
theorem Batched.committed_work {batcher : Batcher} {w : Work π α} {d d' : Device π}
    {v : Except SyncError α} {cs : List LocalChange}
    (h : Batched batcher .remote (body w) d (.committed v cs) d') :
    ∃ a s, v = .ok a ∧ w.perform d.begun.scope = (.ok a, s) ∧ cs = s.changes ∧
      d.begun.store.content = d.store.content ∧ d.store.Steady d.begun.store ∧
      d'.store.content = s.store.content ∧ d'.store.saved = none ∧ s.store.Steady d'.store ∧
      d'.processor = s.processor ∧ d'.pending = s.pending := by
  generalize ho : BatchOutcome.committed v cs = o at h
  cases h with
  | refused | abandoned => cases ho
  | @committed s t hbegin hbody hcommit =>
    obtain ⟨-, -, hcontent, hbegun⟩ := Store.begin_ok hbegin
    obtain ⟨hcommitted, hended, hsteady⟩ := Store.commit_ok hcommit
    rw [begun_of_ok hbegin]
    rw [body_draft] at ho hbody
    rw [body_device] at hcommitted hsteady
    rcases hres : w.perform (d.withStore s).scope with ⟨e | a, s'⟩ <;> rw [hres] at hbody
    · cases hbody
    · rw [hres] at ho hcommitted hsteady
      cases ho
      obtain ⟨hstore, hprocessor, hpending⟩ := told_remote s'.changes
        (((body w (d.withStore s)).2.withStore t).settled batcher s'.changes)
      refine ⟨a, s', rfl, rfl, rfl, hcontent, hbegun, ?_⟩
      rw [body_draft, hres, hstore, hprocessor, hpending, body_device, hres]
      cases batcher <;> exact ⟨hcommitted, hended, hsteady, rfl, rfl⟩

/-- **A committed batch of orderly work of the remote side has written what it asked for.** -/
theorem Batched.metadata {batcher : Batcher} {w : Work π α} {d d' : Device π} {v : Except SyncError α}
    {cs : List LocalChange} (h : Batched batcher .remote (body w) d (.committed v cs) d')
    (hw : w.Orderly) (hsettles : w.Settles) :
    d'.store.metadata =
      (w.perform d.begun.scope).2.asked.foldl StoredMetadata.apply d.store.metadata := by
  obtain ⟨a, s, -, hres, -, hbegun, -, hend, -⟩ := h.committed_work
  have hstart : Scope.Faithful d.store.metadata d.begun.scope := fun _ =>
    Store.metadata_congr hbegun
  have hfaithful := (hw d.begun.scope).faithful a (by rw [hres]) _ hstart
  rw [hres] at hfaithful ⊢
  exact (Store.metadata_congr hend).trans (hfaithful (hsettles _ _ _ hres))

end Device

end CredentialSync
