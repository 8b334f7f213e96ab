import CredentialSync.Proofs.Bridge.Ready
import CredentialSync.Proofs.Notifier

/-!
# The relay

The relay tells the processor of each change of a batch in order (`LocalChange.call`), and writes what
it answers, in a transaction of its own. On a ready device it always succeeds (`forward_ok`): the
records stay as they are, and all metadata asked for is written.

Telling observers of a batch keeps the device ready (`Ready.told`).
-/

namespace CredentialSync

open Attempt

variable {π : Type} [Processor π]

/-- What the processor is told of a change of this device. -/
def LocalChange.call (c : LocalChange) : ProcessorCall :=
  match c.kind with
  | .remove => .delete c.storageKey
  | _ => .put c.storageKey (Entity.ofRecord c.record)

namespace Device

/-! ## 1. Announcing -/

/-- What happens when changes are announced. -/
def announcements (cs : List LocalChange) : List Work.Event := cs.map fun c => .call c.call

theorem announce_cons (c : LocalChange) (cs : List LocalChange) :
    (announce (c :: cs) : Work π (Nat × Nat)) = (do
      Work.tell c.call.deliver
      let (puts, deletes) ← announce cs
      return if c.kind = .remove then (puts, deletes + 1) else (puts + 1, deletes)) := by
  rw [announce, LocalChange.call]
  cases c.kind <;> rfl

theorem made_announce (cs : List LocalChange) : Work.Made (announce cs : Work π (Nat × Nat)) := by
  induction cs with
  | nil => exact .reads (.pure _)
  | cons c cs ih =>
    rw [announce_cons]
    exact (Work.Made.tell c.call).bind fun _ => ih.bind fun _ => .reads (.pure _)

/-- Announcing changes always succeeds. -/
theorem announce_ok (cs : List LocalChange) (s : Scope π) :
    ∃ n s', (announce cs).perform s = (.ok n, s') ∧ Work.Did s [] (announcements cs) s' ∧
      s'.store.vault = s.store.vault := by
  induction cs generalizing s with
  | nil => exact ⟨_, s, rfl, .refl s, rfl⟩
  | cons c cs ih =>
    rw [announce_cons]
    obtain ⟨t, htell⟩ : ∃ t, (Work.tell c.call.deliver).perform s = (.ok (), t) := ⟨_, rfl⟩
    obtain ⟨hdid, hvault⟩ := Work.did_tell htell
    obtain ⟨n, s', hannounce, hdid', hvault'⟩ := ih t
    refine ⟨if c.kind = .remove then (n.1, n.2 + 1) else (n.1 + 1, n.2), s', ?_, hdid.trans hdid',
      hvault'.trans hvault⟩
    rw [bind_of_ok htell, bind_of_ok hannounce]
    rfl

/-! ## 2. Forwarding -/

/-- **Forwarding a batch on a ready device.** -/
theorem forward_ok {f : Setting π} {d : Device π} (h : d.Ready f) (batch : ChangeBatch) :
    ∃ d', (forward batch).perform d = (.ok (), d') ∧ d'.Ready f ∧
      d'.store.vault = d.store.vault ∧ d'.notifier = d.notifier ∧
      ∃ asked, (d'.processor, asked) =
          (announcements batch.changes).foldl Work.Event.hear (d.processor, []) ∧
        d'.store.metadata = asked.foldl StoredMetadata.apply d.store.metadata := by
  obtain ⟨t, hbegin⟩ := Store.begin_of_quiet h.quiet h.closed
  obtain ⟨-, hsaved, hcontent, hsteady⟩ := Store.begin_ok hbegin
  have hfit : (d.withStore t).Fit f := h.toFit.withStore hsteady (h.sound.begin hbegin)
  obtain ⟨⟨puts, deletes⟩, s, hannounce, hdid, hvault⟩ :=
    announce_ok batch.changes (d.withStore t).scope
  have hready : s.Ready f := by
    have hmade := (made_announce batch.changes).ready hfit.scope
    rw [hannounce] at hmade
    exact hmade
  have hleft := (made_announce batch.changes).orderly (d.withStore t).scope
  rw [hannounce] at hleft
  have hopen : s.store.saved = some d.store.content :=
    (hleft.transaction _ hsaved).resolve_right fun ⟨⟨_, he⟩, _⟩ => nomatch he
  obtain ⟨u, hcommit⟩ := Store.commit_of_quiet hready.quiet hopen
  obtain ⟨hcommitted, hclosed, hsteady'⟩ := Store.commit_ok hcommit
  have hend : (((d.withStore t).putScope s).withStore u).Ready f :=
    ⟨(hfit.putScope hready).withStore hsteady' (hready.sound.commit hcommit), hclosed⟩
  refine ⟨_, ?_, ((hend.measure .relayPut puts).measure .relayDelete deletes).tally
    (Stats.addRelayed (UInt64.ofNat (puts + deletes))), ?_, rfl, s.asked, hdid.heard, ?_⟩
  · have honBegin : (onStore Store.begin).perform d = (.ok (), d.withStore t) := by
      rw [onStore_perform, hbegin]
    have honCommit : (onStore Store.commit).perform ((d.withStore t).putScope s) =
        (.ok (), ((d.withStore t).putScope s).withStore u) := by
      rw [onStore_perform]
      exact congrArg (fun r : Except SyncError Unit × Store =>
        (r.1, ((d.withStore t).putScope s).withStore r.2)) hcommit
    unfold forward
    rw [bind_of_ok honBegin, perform_bind, perform_get]
    simp only [hannounce, hready.written, perform_bind, perform_modify, perform_ofExcept, honCommit]
  · exact (Store.vault_congr hcommitted).trans
      (hvault.trans (Store.vault_congr hcontent))
  · have hfaithful : s.store.metadata = s.asked.foldl StoredMetadata.apply d.store.metadata :=
      hleft.faithful _ rfl _ (fun _ => Store.metadata_congr hcontent) hready.written
    exact (Store.metadata_congr hcommitted).trans hfaithful

/-! ## 3. Telling observers -/

variable {f : Setting π} {d : Device π}

/-- A batch of this device is forwarded while the processor is interested. -/
theorem relay_of_local {batch : ChangeBatch} {d' : Device π} (hlocal : batch.isLocal = true)
    (htracking : Processor.isTracking d.processor = true)
    (h : (forward batch).perform d = (.ok (), d')) : d.relay batch = d' := by
  rw [relay, hlocal, htracking]
  simp [h]

theorem Ready.relayed (h : d.Ready f) (batch : ChangeBatch) : (d.relay batch).Ready f := by
  unfold Device.relay
  split
  · obtain ⟨d', hforward, hready, -⟩ := forward_ok h batch
    rw [hforward]
    exact hready
  · exact (h.measure _ _).tally _

/-- An observer is called; only the relay of the bridge does something. -/
def callObserver (batch : ChangeBatch) (d : Device π) (o : ObserverId) : Device π :=
  if d.bridge.any (·.relay == o) then d.relay batch else d

theorem notify_eq (batch : ChangeBatch) (d : Device π) :
    d.notify batch =
      let told := d.notifier.live.foldl (callObserver batch) { d with notifier := d.notifier.prune }
      { told with notifier := { told.notifier with channel := told.notifier.channel.send batch } } :=
  rfl

theorem Ready.setNotifier {n : Notifier} (h : d.Ready f) (hn : n.live = d.notifier.live) :
    Ready f { d with notifier := n } :=
  ⟨⟨h.quiet, h.replaces, h.sound, h.pending, h.processor, h.relay, hn ▸ h.live⟩, h.closed⟩

theorem Ready.callObserver (h : d.Ready f) (batch : ChangeBatch) (o : ObserverId) :
    (d.callObserver batch o).Ready f := by
  unfold Device.callObserver
  split
  · exact h.relayed batch
  · exact h

theorem Ready.foldl_callObserver (h : d.Ready f) (batch : ChangeBatch) (os : List ObserverId) :
    (os.foldl (Device.callObserver batch) d).Ready f := by
  induction os generalizing d with
  | nil => exact h
  | cons o os ih => exact ih (h.callObserver batch o)

/-- **Telling observers of a batch keeps the device ready.** -/
theorem Ready.told (h : d.Ready f) (side : Side) (changes : List LocalChange) :
    (d.told side changes).Ready f := by
  unfold Device.told
  split
  · exact h
  · rw [notify_eq]
    have hpruned : Ready f { d with notifier := d.notifier.prune } :=
      h.setNotifier (Notifier.live_prune _)
    exact (hpruned.foldl_callObserver _ _).setNotifier rfl

end Device

end CredentialSync
