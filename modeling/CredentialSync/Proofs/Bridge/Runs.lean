import CredentialSync.Proofs.Bridge.Calls
import CredentialSync.Proofs.Bridge.Relay

/-!
# Runs of calls

A ready device is ready behind every call, whether it succeeds or fails, if the writes only change and
look at records (`Ready.run`), and so behind every run of calls (`Ready.runAll`).

A write that succeeds has made its changes as steps from the records before it (`Ready.write_ok`). A
call that fails has told the metadata of nothing (`Call.fails_steps`).
-/

namespace CredentialSync

open Attempt Device

variable {π : Type} [Processor π] {α β : Type}

/-- Carries calls out, one after another. -/
def Call.runAll : List (Call β) → Device π → Device π
  | [], d => d
  | c :: cs, d => runAll cs (c.run d).2

namespace Device

variable {f : Setting π} {d : Device π}

/-- A batch of the remote side leaves a ready device ready. -/
theorem Ready.remote (h : d.Ready f) {w : Work π α} (hw : w.Made) :
    (d.batch .bridge .remote (body w)).2.Ready f :=
  (batched .bridge .remote (body w) d).ready h (fun _ hd _ => hd.body hw)
    fun _ changes hd => hd.told .remote changes

/-- A plain write leaves a ready device ready. -/
theorem Ready.write {w : Write β} (hw : w.Plain) (h : d.Ready f) : (d.write w).2.Ready f :=
  (batched .bridge .device (w.run []) d).ready h (fun _ hd hopen => hd.write hw hopen)
    fun _ changes hd => hd.told .device changes

/-- **A call leaves a ready device ready.** -/
theorem Ready.run {c : Call β} (hc : c.Plain) (h : d.Ready f) : (c.run d).2.Ready f := by
  cases c with
  | merge changes =>
    have hbatch := h.remote (Work.made_merge changes)
    rw [Call.run, perform_map, merge_perform]
    cases (d.batch .bridge .remote (body (Merge.work changes))).1.result with
    | error e => exact hbatch.measure _ _
    | ok s => exact (((hbatch.measure _ _).measure _ _).measure _ _).measure _ _
  | apply changes =>
    have hbatch := h.remote (Work.made_apply changes)
    rw [Call.run, perform_map, apply_perform]
    cases (d.batch .bridge .remote (body (Apply.work changes))).1.result with
    | error e => exact (hbatch.measure _ _).measure _ _
    | ok s => exact ((hbatch.measure _ _).measure _ _).tally _
  | forget =>
    rw [Call.run, stopSync_perform]
    exact h.remote Work.made_forget
  | write w => exact h.write hc

/-- **A run of calls leaves a ready device ready.** -/
theorem Ready.runAll {cs : List (Call β)} (hcs : ∀ c ∈ cs, c.Plain) (h : d.Ready f) :
    (Call.runAll cs d).Ready f := by
  induction cs generalizing d with
  | nil => exact h
  | cons c cs ih =>
    exact ih (fun c' hc' => hcs c' (List.mem_cons_of_mem _ hc')) (h.run (hcs c List.mem_cons_self))

/-! ## 2. Writes that succeed -/

/-- **A plain write that succeeds on a ready device.** Its changes are steps, and the device that
    everyone is told from still has its metadata, its processor and its notifier. -/
theorem Ready.write_ok {w : Write β} (hw : w.Plain) (h : d.Ready f)
    (hok : (d.write w).1.ending = .ok ()) :
    ∃ (d₁ : Device π) (value : β) (cs : List LocalChange), d₁.Ready f ∧
      d.write w = (.committed value cs, d₁.told .device cs) ∧
      Vault.Steps d.store.vault cs d₁.store.vault ∧ d₁.store.metadata = d.store.metadata ∧
      d₁.processor = d.processor ∧ d₁.notifier = d.notifier := by
  have hbatched := batched .bridge .device (w.run []) d
  unfold Device.write at hok ⊢
  generalize hx : d.batch .bridge .device (w.run []) = x at hbatched hok ⊢
  obtain ⟨outcome, d'⟩ := x
  cases hbatched with
  | refused | abandoned => cases hok
  | @committed s t hbegin hdone hcommit =>
    obtain ⟨-, hsaved, hcontent, hsteady⟩ := Store.begin_ok hbegin
    obtain ⟨hcommitted, -, -⟩ := Store.commit_ok hcommit
    have hopen : (d.withStore s).store.saved = some (d.withStore s).store.content := by
      rw [store_withStore, hsaved, hcontent]
    have hfit := (h.toFit.withStore hsteady (h.sound.begin hbegin)).write hw hopen
    refine ⟨_, _, _, hfit.settled hcommit .bridge _, rfl, ?_⟩
    obtain ⟨u, hu, hsteady', hworked⟩ :=
      hw.worked (.refl s) (.kept hopen rfl (.nil _) fun _ => rfl) (d := d.withStore s)
    have hend : (w.run [] (d.withStore s)).2.store = u := by rw [hu]
    have hvault : s.vault = d.store.vault := Store.vault_congr hcontent
    have hmetadata : s.metadata = d.store.metadata := Store.metadata_congr hcontent
    have hvault' : t.vault = u.vault := by rw [← hend]; exact Store.vault_congr hcommitted
    have hmetadata' : t.metadata = u.metadata := by
      rw [← hend]
      exact Store.metadata_congr hcommitted
    cases hworked with
    | kept _ hsame hsteps hreport =>
      rw [← hreport (hsteady.quiet h.quiet), hvault, ← hvault'] at hsteps
      refine ⟨hsteps, hmetadata'.trans (hsame.trans hmetadata), ?_, ?_⟩ <;>
      · rw [hu]
        rfl
    | lost hlost _ _ hreplaces =>
      have hopen' := Store.saved_of_commit (hend ▸ hsteady'.replaces.trans hreplaces) hcommit
      rw [hend] at hopen'
      exact absurd hlost hopen'

/-! ## 3. Calls that fail -/

/-- A plain write whose batch is not committed tells nobody. -/
theorem Batched.uncommitted_silent {w : Write β} {batcher : Batcher} {side : Side} {d d' : Device π}
    {outcome : BatchOutcome β} (h : Batched batcher side (w.run []) d outcome d') (hw : w.Plain)
    (hfail : ∀ v cs, outcome ≠ .committed v cs) :
    d'.processor = d.processor ∧ d'.notifier = d.notifier := by
  cases h with
  | refused => exact ⟨rfl, rfl⟩
  | committed => exact absurd rfl (hfail _ _)
  | @abandoned s _ hbegin _ =>
    obtain ⟨-, hsaved, hcontent, -⟩ := Store.begin_ok hbegin
    have hopen : (d.withStore s).store.saved = some (d.withStore s).store.content := by
      rw [store_withStore, hsaved, hcontent]
    obtain ⟨u, hu, -, -⟩ :=
      hw.worked (.refl s) (.kept hopen rfl (.nil _) fun _ => rfl) (d := d.withStore s)
    rw [hu]
    cases batcher <;> exact ⟨rfl, rfl⟩

/-- What a write leaves whose batch is not committed: nothing, or what it did behind the end of its
    transaction. -/
theorem Batched.uncommitted_steps {w : Write β} {batcher : Batcher} {side : Side} {d d' : Device π}
    {outcome : BatchOutcome β} (h : Batched batcher side (w.run []) d outcome d') (hw : w.Plain)
    (hfail : ∀ v cs, outcome ≠ .committed v cs) (hroll : d.store.CanRollBack) :
    ∃ ds, Vault.Steps d.store.vault ds d'.store.vault ∧ d'.store.metadata = d.store.metadata := by
  cases h with
  | refused => exact ⟨[], .nil _, rfl⟩
  | committed => exact absurd rfl (hfail _ _)
  | @abandoned s _ hbegin _ =>
    obtain ⟨-, hsaved, hcontent, hsteady⟩ := Store.begin_ok hbegin
    have hopen : (d.withStore s).store.saved = some (d.withStore s).store.content := by
      rw [store_withStore, hsaved, hcontent]
    obtain ⟨u, hu, hsteady', hworked⟩ :=
      hw.worked (.refl s) (.kept hopen rfl (.nil _) fun _ => rfl) (d := d.withStore s)
    have hback := (hsteady.trans hsteady').canRollBack hroll
    rw [hu]
    obtain ⟨habandoned, -⟩ := @abandon_cases _ batcher { d.withStore s with store := u } hback
    cases hworked with
    | kept hsame _ _ _ =>
      have hend : (abandon batcher { d.withStore s with store := u }).store.content =
          d.store.content := by
        rw [habandoned]
        show u.saved.getD u.content = d.store.content
        rw [hsame]
        exact hcontent
      refine ⟨[], ?_, Store.metadata_congr hend⟩
      rw [Store.vault_congr hend]
      exact .nil _
    | @lost ds hlost hmetadata hsteps _ =>
      have hend : (abandon batcher { d.withStore s with store := u }).store.content = u.content := by
        rw [habandoned]
        show u.saved.getD u.content = u.content
        rw [hlost]
        rfl
      refine ⟨ds, ?_, (Store.metadata_congr hend).trans
        (hmetadata.trans (Store.metadata_congr hcontent))⟩
      rw [Store.vault_congr hend, ← Store.vault_congr hcontent]
      exact hsteps

end Device

/-- **What a failed call leaves.** It has told the metadata of nothing; what has changed of the records
    are steps that a write made behind the end of its transaction. -/
theorem Call.fails_steps {c : Call β} {d : Device π} (hplain : c.Plain) (hroll : d.store.CanRollBack)
    {e : SyncError} (hfail : (c.run d).1 = .error e) :
    ∃ ds, Vault.Steps d.store.vault ds (c.run d).2.store.vault ∧
      (c.run d).2.store.metadata = d.store.metadata := by
  by_cases hwrite : ∃ w, c = .write w
  · obtain ⟨w, rfl⟩ := hwrite
    exact (batched .bridge .device (w.run []) d).uncommitted_steps hplain
      (BatchOutcome.not_committed hfail) hroll
  · have hrestored : Restored d (c.run d).2 := by
      refine (fails_restored_iff hplain hroll hfail).2 ?_
      cases c with
      | write w => exact absurd ⟨w, rfl⟩ hwrite
      | merge | apply | forget => trivial
    refine ⟨[], ?_, Store.metadata_congr hrestored.content⟩
    rw [Store.vault_congr hrestored.content]
    exact .nil _

end CredentialSync
