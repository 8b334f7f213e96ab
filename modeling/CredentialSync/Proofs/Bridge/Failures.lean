import CredentialSync.Proofs.Bridge.Ready
import CredentialSync.Proofs.Store.Failures

/-!
# How work on a database fails

On a database, editing records fails with a fault of the database (`Work.failsWith_change`), and failed
writes to the metadata are failures of the metadata, whatever has caused them (`Work.Made.blames`). A
batch of work fails as its work does, or with a fault of the database (`Device.failsWith_batch`).
-/

namespace CredentialSync

open Attempt

variable {π : Type} [Processor π] {α : Type}

/-- What has kept metadata from being written is a failure of the metadata. -/
def Scope.Blames (s : Scope π) : Prop :=
  ∀ e, s.writeFault = some e → ∃ detail, e = .metadataFailure detail

namespace Work

variable {s : Scope π}

omit [Processor π] in
theorem failsWith_change (h : s.store.replaces = true) (e : Edit) :
    (change e.attempt).FailsWith SyncError.IsFault s := fun err t he => by
  rcases hres : e.attempt.perform s.store with ⟨err' | cs, u⟩ <;> rw [change_of_attempt hres] at he
  · cases he
    exact Store.fault_of_edit h e _ _ hres
  · cases he

omit [Processor π] in
theorem blames_writes (h : s.Blames) (ws : List MetadataWrite) : (ws.foldl writeOne s).Blames := by
  induction ws generalizing s with
  | nil => exact h
  | cons w ws ih =>
    refine ih ?_
    rcases writeOne_cases s w with ⟨e, -, heq⟩ | ⟨-, t, -, heq⟩ | ⟨e, t, -, heq⟩ <;> rw [heq]
    · exact h
    · exact h
    · rintro _ ⟨⟩
      cases e <;> exact ⟨_, rfl⟩

/-- **Work made of the steps of a batch blames the metadata.** -/
theorem Made.blames {w : Work π α} (hw : Made w) (h : s.Blames) : (w.perform s).2.Blames := by
  induction hw generalizing s with
  | reads hreads =>
    rw [hreads s]
    exact h
  | change e =>
    rw [perform_change]
    exact h
  | write ws => exact blames_writes h ws
  | writePending =>
    rw [perform_writePending]
    exact blames_writes (s := { s with pending := {} }) h _
  | tell c =>
    rw [perform_tell]
    exact blames_writes (s := { s with processor := (c.deliver s.processor).2 }) h _
  | @bind _ _ w _ _ _ ihw ihf =>
    have hfirst := ihw h
    rw [perform_bind]
    rcases hres : w.perform s with ⟨_ | a, t⟩ <;> rw [hres] at hfirst
    · exact hfirst
    · exact ihf a hfirst

omit [Processor π] in
theorem failsWith_settle (h : s.Blames) :
    settle.FailsWith (fun e => ∃ detail, e = .metadataFailure detail) s :=
  (Succeeds.failsWith ⟨s, s, rfl⟩).bind fun x t hget => by
    cases hget
    split
    · exact failsWith_pure _ _
    · next e he => exact failsWith_throw (h e he) _

end Work

namespace Device

/-- **A batch of work on a database fails as its work does, or with a fault of the database.** -/
theorem failsWith_batch {Q : SyncError → Prop} (hfault : ∀ e, e.IsFault → Q e) {d : Device π}
    (hreplaces : d.store.replaces = true) {w : Work π α} (hw : w.Made)
    (hwork : ∀ s, Store.begin.perform d.store = (.ok (), s) → w.FailsWith Q (d.withStore s).scope)
    {batcher : Batcher} {side : Side} {e : SyncError}
    (h : (d.batch batcher side (body w)).1.result = .error e) : Q e := by
  have hbatched := batched batcher side (body w) d
  generalize d.batch batcher side (body w) = ended at h hbatched
  obtain ⟨o, d'⟩ := ended
  cases hbatched with
  | refused hbegin =>
    cases h
    exact hfault _ (Store.fault_of_either Database.faulty_begin hreplaces _ _ hbegin)
  | @abandoned s _ hbegin hfail =>
    cases h
    rw [body_draft, body_device] at hfail
    rcases hres : w.perform (d.withStore s).scope with ⟨e' | a, t⟩ <;> rw [hres] at hfail
    · obtain rfl : e' = e := by simpa using hfail
      exact hwork s hbegin _ _ hres
    · have hcommit : Store.commit.perform ((d.withStore s).putScope t).store =
          (.error e, ((d.withStore s).putScope t).store) := by simpa using hfail
      have hsteady := (Store.begin_ok hbegin).2.2.2.trans (hw.orderly.left hres).steady
      exact hfault _ (Store.fault_of_either Database.faulty_commit
        (hsteady.replaces.trans hreplaces) _ _ hcommit)
  | @committed s _ hbegin hbody =>
    rw [body_draft] at h hbody
    rcases hres : w.perform (d.withStore s).scope with ⟨e' | a, t⟩ <;> rw [hres] at h hbody
    · cases hbody
    · cases h

end Device

end CredentialSync
