import CredentialSync.Proofs.Bridge.Relay
import CredentialSync.Proofs.Tracking.Answers

/-!
# The relay keeps tracking the records

What a recorder answers to the announcement of changes mirrors them. So once the relay has forwarded a
committed batch, the metadata has caught up with the records, however often the relay is registered
(`Ready.told_tracks`).
-/

namespace CredentialSync

/-- What stays the same of a device with a recorder that answers. -/
def Recorder.setting (relay : ObserverId) (replacing : Bool) : Setting Recorder where
  Holds := Loud
  keeps c _ h := (h.deliver c).2
  relay := relay
  replacing := replacing

/-- The answer to the announcement of a change. -/
theorem mirrors_answer (c : LocalChange) : ∃ w, c.call.answer = [w] ∧ Mirrors c w := by
  unfold LocalChange.call
  cases hkind : c.kind with
  | remove => exact ⟨_, rfl, .clear hkind⟩
  | add | update => exact ⟨_, rfl, .set (by rw [hkind]; nofun) rfl⟩

/-- The answers to the announcements of changes mirror them. -/
theorem mirrors_announcements (cs : List LocalChange) :
    List.Forall₂ Mirrors cs ((Device.announcements cs).flatMap Work.Event.asks) := by
  induction cs with
  | nil => exact .nil
  | cons c cs ih =>
    obtain ⟨w, hanswer, hmirrors⟩ := mirrors_answer c
    have hasks : (Device.announcements (c :: cs)).flatMap Work.Event.asks =
        c.call.answer ++ (Device.announcements cs).flatMap Work.Event.asks := rfl
    rw [hasks, hanswer]
    exact .cons hmirrors ih

namespace Device

variable {d : Device Recorder} {relay : ObserverId} {replacing : Bool} {v : Vault}
  {cs : List LocalChange}

/-- The metadata of the device tracks its records. -/
def Tracking {π : Type} (d : Device π) : Prop := Tracks d.store.metadata d.store.vault

/-- The metadata catches up when the relay is called. -/
theorem Ready.relay_tracks (h : d.Ready (Recorder.setting relay replacing))
    (hs : Vault.Steps v cs d.store.vault) (hlags : Lags d.store.metadata v cs) :
    (d.relay ⟨.device, cs⟩).Tracking ∧ (d.relay ⟨.device, cs⟩).store.vault = d.store.vault := by
  have hloud : d.processor.Loud := h.processor
  obtain ⟨d', hforward, -, hvault, -, asked, hheard, hmetadata⟩ := forward_ok h ⟨.device, cs⟩
  rw [relay_of_local rfl hloud.tracking hforward]
  refine ⟨?_, hvault⟩
  have hasked : asked = _ := congrArg Prod.snd hheard
  rw [(Work.Event.hear_of_loud hloud _ []).2] at hasked
  unfold Tracking
  rw [hmetadata, hvault, hasked]
  exact hlags.steps hs (mirrors_announcements cs) h.sound.content.complete

/-- The metadata has caught up once the relay is among those called, or if it had before. -/
theorem Ready.foldl_tracks {os : List ObserverId} (h : d.Ready (Recorder.setting relay replacing))
    (hs : Vault.Steps v cs d.store.vault) (hlags : Lags d.store.metadata v cs)
    (hcalled : relay ∈ os ∨ d.Tracking) :
    (os.foldl (Device.callObserver ⟨.device, cs⟩) d).Tracking := by
  induction os generalizing d with
  | nil => exact hcalled.resolve_left List.not_mem_nil
  | cons o os ih =>
    rw [List.foldl_cons]
    cases ho : d.bridge.any (·.relay == o) with
    | true =>
      have hcall : d.callObserver ⟨.device, cs⟩ o = d.relay ⟨.device, cs⟩ := by
        rw [Device.callObserver, ho, if_pos rfl]
      obtain ⟨htracking, hvault⟩ := h.relay_tracks hs hlags
      rw [hcall]
      have hs' : Vault.Steps v cs (d.relay ⟨.device, cs⟩).store.vault := by
        rw [hvault]
        exact hs
      exact ih (h.relayed _) hs' (Tracks.lags_of_steps htracking hs') (.inr htracking)
    | false =>
      have hcall : d.callObserver ⟨.device, cs⟩ o = d := by
        rw [Device.callObserver, ho, if_neg Bool.false_ne_true]
      rw [hcall]
      refine ih h hs hlags (hcalled.imp_left fun hmem => ?_)
      rcases List.mem_cons.1 hmem with rfl | hmem
      · have hrelay : d.bridge.any (·.relay == relay) = true := h.relay
        rw [ho] at hrelay
        cases hrelay
      · exact hmem

/-- **When everyone has been told of a batch of this device, the metadata tracks the records.** -/
theorem Ready.told_tracks (h : d.Ready (Recorder.setting relay replacing))
    (hs : Vault.Steps v cs d.store.vault) (htracks : Tracks d.store.metadata v) :
    (d.told .device cs).Tracking := by
  unfold Device.told
  cases hcs : cs.isEmpty with
  | true =>
    rw [List.isEmpty_iff.1 hcs] at hs
    rw [if_pos rfl, Tracking]
    generalize hv : d.store.vault = v' at hs ⊢
    cases hs
    exact htracks
  | false =>
    rw [if_neg Bool.false_ne_true, notify_eq]
    have hpruned : Ready (Recorder.setting relay replacing)
        { d with notifier := d.notifier.prune } := h.setNotifier (Notifier.live_prune _)
    exact hpruned.foldl_tracks hs (htracks.lags cs) (.inl h.live)

end Device

end CredentialSync
