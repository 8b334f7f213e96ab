import CredentialSync.Proofs.Bridge.Batch
import CredentialSync.Proofs.Bridge.Events
import CredentialSync.Proofs.Store.Reached

/-!
# Devices in order

A device is `Device.Fit` if its store is sound and not told to fail, its caller has collected no
metadata, and the relay of its bridge is a live observer; it is `Device.Ready` if moreover no
transaction is open. Which relay that is, of which kind the store is, and some property of the
processor make up a `Setting`, which stays the same.

Work made of the steps of a batch keeps a scope in order (`Work.Made.ready`), and so does a plain write
(`Fit.write`). On a ready device no write to the metadata fails.
-/

namespace CredentialSync

open Attempt

variable {π : Type} [Processor π] {α β : Type}

/-- What stays the same of a device in order. -/
structure Setting (π : Type) [Processor π] where
  /-- A property of the processor. -/
  Holds : π → Prop
  /-- No call destroys the property. -/
  keeps : ∀ (c : ProcessorCall) p, Holds p → Holds (c.deliver p).2
  /-- The relay of the bridge. -/
  relay : ObserverId
  /-- Whether the store replaces records. -/
  replacing : Bool

/-! ## 1. Scopes -/

/-- A scope in which no write to the metadata fails. -/
structure Scope.Ready (f : Setting π) (s : Scope π) : Prop where
  quiet : s.store.Quiet
  replaces : s.store.replaces = f.replacing
  sound : s.store.Sound
  pending : s.pending = {}
  processor : f.Holds s.processor
  written : s.writeFault = none

namespace Work

variable {f : Setting π} {s : Scope π}

/-- A store that is not told to fail writes all metadata. -/
theorem ready_writeOne (h : s.Ready f) (w : MetadataWrite) : (writeOne s w).Ready f := by
  obtain ⟨t', hok⟩ := Store.writeMetadata_of_quiet h.quiet h.sound.content.complete w
  rcases writeOne_cases s w with ⟨e, hfault, -⟩ | ⟨hfault, t, hw, heq⟩ | ⟨e, t, hw, -⟩
  · rw [h.written] at hfault
    cases hfault
  · rw [heq]
    have hsteady := (Store.written hw).2.2
    exact ⟨hsteady.quiet h.quiet, hsteady.replaces.trans h.replaces, h.sound.writeMetadata hw,
      h.pending, h.processor, hfault⟩
  · rw [hok] at hw
    cases hw

theorem ready_writes (h : s.Ready f) (ws : List MetadataWrite) : (ws.foldl writeOne s).Ready f := by
  induction ws generalizing s with
  | nil => exact h
  | cons w ws ih => exact ih (ready_writeOne h w)

omit [Processor π] in
theorem change_of_attempt {e : Edit} {s : Scope π} {t : Store} {res : Except SyncError (List LocalChange)}
    (h : e.attempt.perform s.store = (res, t)) :
    (change e.attempt).perform s =
      (res, { s with store := t, changes := s.changes ++ Store.reported res }) := by
  cases res with
  | error e => simp [change, onStore, perform_bind, h, Store.reported]
  | ok cs =>
    have honStore : (onStore e.attempt).perform s = (.ok cs, { s with store := t }) := by
      rw [onStore, perform_within, h]
    rw [change, bind_of_ok honStore]
    rfl

omit [Processor π] in
theorem perform_change (e : Edit) (s : Scope π) :
    ((change e.attempt).perform s).2 =
      { s with store := (e.attempt.perform s.store).2
               changes := s.changes ++ Store.reported (e.attempt.perform s.store).1 } := by
  rcases h : e.attempt.perform s.store with ⟨res, t⟩
  rw [change_of_attempt h]

/-- **Work made of the steps of a batch keeps the scope in order.** -/
theorem Made.ready {w : Work π α} (hw : Made w) (h : s.Ready f) :
    (w.perform s).2.Ready f := by
  induction hw generalizing s with
  | reads hreads =>
    rw [hreads s]
    exact h
  | change e =>
    rcases hres : e.attempt.perform s.store with ⟨res, t⟩
    rw [perform_change, hres]
    have hsteady := (Store.edited hres).2
    exact ⟨hsteady.quiet h.quiet, hsteady.replaces.trans h.replaces, h.sound.edit hres, h.pending,
      h.processor, h.written⟩
  | write ws => exact ready_writes h ws
  | writePending =>
    rw [perform_writePending]
    exact ready_writes (s := { s with pending := {} })
      ⟨h.quiet, h.replaces, h.sound, rfl, h.processor, h.written⟩ _
  | tell c =>
    rw [perform_tell]
    exact ready_writes (s := { s with processor := (c.deliver s.processor).2 })
      ⟨h.quiet, h.replaces, h.sound, h.pending, f.keeps c _ h.processor, h.written⟩ _
  | @bind _ _ w _ _ _ ihw ihf =>
    have hfirst := ihw h
    rw [perform_bind]
    rcases hres : w.perform s with ⟨_ | a, t⟩ <;> rw [hres] at hfirst
    · exact hfirst
    · exact ihf a hfirst

end Work

/-! ## 2. Devices -/

namespace Device

/-- The device is in order; a transaction may be open. -/
structure Fit (f : Setting π) (d : Device π) : Prop where
  quiet : d.store.Quiet
  replaces : d.store.replaces = f.replacing
  sound : d.store.Sound
  pending : d.pending = {}
  processor : f.Holds d.processor
  relay : d.bridge.any (·.relay == f.relay) = true
  live : f.relay ∈ d.notifier.live

/-- The device is in order, and no transaction is open. -/
structure Ready (f : Setting π) (d : Device π) : Prop extends Fit f d where
  closed : d.store.saved = none

variable {f : Setting π} {d : Device π}

theorem Fit.withStore {s : Store} (h : d.Fit f) (hsteady : d.store.Steady s) (hsound : s.Sound) :
    (d.withStore s).Fit f :=
  ⟨hsteady.quiet h.quiet, hsteady.replaces.trans h.replaces, hsound, h.pending, h.processor, h.relay,
    h.live⟩

theorem Fit.measure (h : d.Fit f) (metric : Metric) (n : Nat) : (d.measure metric n).Fit f :=
  ⟨h.quiet, h.replaces, h.sound, h.pending, h.processor, h.relay, h.live⟩

theorem Fit.tally (h : d.Fit f) (g : Stats → Stats) : (d.tally g).Fit f := by
  refine ⟨h.quiet, h.replaces, h.sound, h.pending, h.processor, ?_, h.live⟩
  have hrelay := h.relay
  cases hb : d.bridge with
  | none =>
    rw [hb] at hrelay
    cases hrelay
  | some b =>
    rw [hb] at hrelay
    simpa [Device.tally, hb] using hrelay

theorem Fit.countBatch (h : d.Fit f) (batcher : Batcher) (g : Stats → Stats) :
    (d.countBatch batcher g).Fit f := by
  cases batcher with
  | bridge => exact h.tally g
  | separate => exact h

omit [Processor π] in
@[simp] theorem store_withStore (s : Store) (d : Device π) : (d.withStore s).store = s := rfl

omit [Processor π] in
@[simp] theorem store_countBatch (batcher : Batcher) (g : Stats → Stats) (d : Device π) :
    (d.countBatch batcher g).store = d.store := by
  cases batcher <;> rfl

theorem Ready.measure (h : d.Ready f) (metric : Metric) (n : Nat) : (d.measure metric n).Ready f :=
  ⟨h.toFit.measure metric n, h.closed⟩

theorem Ready.tally (h : d.Ready f) (g : Stats → Stats) : (d.tally g).Ready f :=
  ⟨h.toFit.tally g, h.closed⟩

theorem Fit.scope (h : d.Fit f) : d.scope.Ready f :=
  ⟨h.quiet, h.replaces, h.sound, h.pending, h.processor, rfl⟩

theorem Fit.putScope {s : Scope π} (h : d.Fit f) (hs : s.Ready f) : (d.putScope s).Fit f :=
  ⟨hs.quiet, hs.replaces, hs.sound, hs.pending, hs.processor, h.relay, h.live⟩

/-- A batch that is abandoned leaves the device ready. -/
theorem Fit.abandon (h : d.Fit f) (batcher : Batcher) : (d.abandon batcher).Ready f := by
  obtain ⟨s, hperform, -, hsaved, hsteady⟩ := Store.rollback_perform h.quiet.canRollBack
  unfold Device.abandon
  rw [onStore_perform, hperform]
  have hfit := h.withStore hsteady (h.sound.rollback hperform)
  refine ⟨(hfit.countBatch batcher _).measure _ _, ?_⟩
  simpa using hsaved

/-- A commit leaves the device ready, before anyone is told of the changes. -/
theorem Fit.settled {t : Store} (h : d.Fit f) (hcommit : Store.commit.perform d.store = (.ok (), t))
    (batcher : Batcher) (changes : List LocalChange) :
    ((d.withStore t).settled batcher changes).Ready f := by
  obtain ⟨-, hsaved, hsteady⟩ := Store.commit_ok hcommit
  have hfit := h.withStore hsteady (h.sound.commit hcommit)
  refine ⟨((hfit.countBatch batcher _).measure _ _).measure _ _, ?_⟩
  simpa [Device.settled] using hsaved

theorem Fit.body {w : Work π α} (hw : w.Made) (h : d.Fit f) :
    (body w d).2.Fit f :=
  h.putScope (hw.ready h.scope)

/-- A plain write keeps the device in order. -/
theorem Fit.write {w : Write β} (hw : w.Plain) (h : d.Fit f)
    (hopen : d.store.saved = some d.store.content) : (w.run [] d).2.Fit f := by
  obtain ⟨s, hs, hsteady, hworked⟩ :=
    hw.worked (.refl d.store) (.kept hopen rfl (.nil _) fun _ => rfl)
  rw [hs]
  refine h.withStore hsteady ?_
  cases hworked with
  | kept hsaved hmetadata hsteps =>
    refine ⟨h.sound.steps hsteps hmetadata, fun c hc => ?_⟩
    rw [hsaved] at hc
    cases hc
    exact h.sound.content
  | lost hsaved hmetadata hsteps =>
    refine ⟨h.sound.steps hsteps hmetadata, fun c hc => ?_⟩
    rw [hsaved] at hc
    cases hc

/-- **A batch leaves a ready device ready**, if its body keeps the device in order and being told of
    the changes does. -/
theorem Batched.ready {batcher : Batcher} {side : Side} {body : Device π → Draft β × Device π}
    {outcome : BatchOutcome β} {d' : Device π} (h : Batched batcher side body d outcome d')
    (hd : d.Ready f)
    (hbody : ∀ d : Device π, d.Fit f → d.store.saved = some d.store.content → (body d).2.Fit f)
    (htold : ∀ (d : Device π) changes, d.Ready f → (d.told side changes).Ready f) :
    d'.Ready f := by
  have hbegun : ∀ s, Store.begin.perform d.store = (.ok (), s) → (body (d.withStore s)).2.Fit f := by
    intro s hbegin
    obtain ⟨-, hsaved, hcontent, hsteady⟩ := Store.begin_ok hbegin
    refine hbody _ (hd.toFit.withStore hsteady (hd.sound.begin hbegin)) ?_
    show s.saved = some s.content
    rw [hsaved, hcontent]
  cases h with
  | refused => exact hd
  | abandoned hbegin _ => exact (hbegun _ hbegin).abandon batcher
  | committed hbegin _ hcommit => exact htold _ _ ((hbegun _ hbegin).settled hcommit batcher _)

end Device

end CredentialSync
