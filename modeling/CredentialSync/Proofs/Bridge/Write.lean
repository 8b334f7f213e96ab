import CredentialSync.Bridge.Write
import CredentialSync.Proofs.Store.Transactions

/-!
# Writes within a transaction

A `Write.Plain` write edits records and looks at them, and leaves metadata and the transaction to
the batch. Run in a transaction (`Write.Plain.worked`) it either stays in it, with its changes as steps
from the vault at the beginning, or the store has ended the transaction in between: what was done up
to then is undone, and what the write did afterwards stands for itself (`Store.Worked`).

A write that ends as soon as an edit fails does nothing afterwards (`Write.GivesUp.contained`).
-/

namespace CredentialSync

open Attempt

/-! ## 1. Edits since the beginning of a transaction -/

/-- How a store stands to the one at the beginning of its transaction, after edits that reported
    some changes. -/
inductive Store.Worked (s₀ : Store) (cs : List LocalChange) (s : Store) : Prop where
  /-- The transaction is open, and the edits are steps from its beginning. -/
  | kept {ds : List LocalChange} (hsaved : s.saved = some s₀.content)
      (hmetadata : s.metadata = s₀.metadata) (hsteps : Vault.Steps s₀.vault ds s.vault)
      (hreport : s₀.Quiet → cs = ds)
  /-- The transaction has ended; the edits since then are steps from its beginning. -/
  | lost {ds : List LocalChange} (hsaved : s.saved = none) (hmetadata : s.metadata = s₀.metadata)
      (hsteps : Vault.Steps s₀.vault ds s.vault) (hreplaces : s₀.replaces = true)

namespace Store

/-- The changes that an edit reported. -/
def reported : Except SyncError (List LocalChange) → List LocalChange
  | .ok cs => cs
  | .error _ => []

/-- **One more edit.** -/
theorem Worked.edit {s₀ s s' : Store} {cs : List LocalChange} {e : Edit}
    {res : Except SyncError (List LocalChange)} (h : Worked s₀ cs s) (hsteady : s₀.Steady s)
    (hedited : Edited s e res s') : Worked s₀ (cs ++ reported res) s' := by
  cases hedited with
  | @done made ds s' hedit hmade hsaved' hmetadata' =>
    have hstep := Vault.steps_of_edit hedit
    cases h with
    | kept hsaved hmetadata hsteps hreport =>
      refine .kept (hsaved'.trans hsaved) (hmetadata'.trans hmetadata) (hsteps.append hstep)
        fun hq => ?_
      rw [(hsteady.quiet hq).reports, if_neg Bool.false_ne_true] at hmade
      rw [hreport hq, hmade]
      rfl
    | lost hsaved hmetadata hsteps hreplaces =>
      exact .lost (hsaved'.trans hsaved) (hmetadata'.trans hmetadata) (hsteps.append hstep)
        hreplaces
  | failed hcontent hsaved' =>
    have hvault : s'.vault = s.vault := congrArg Content.vault hcontent
    have hmeta : s'.metadata = s.metadata := congrArg Content.metadata hcontent
    cases h with
    | kept hsaved hmetadata hsteps hreport =>
      refine .kept (hsaved'.trans hsaved) (hmeta.trans hmetadata) (hvault ▸ hsteps) fun hq => ?_
      rw [hreport hq]
      exact List.append_nil _
    | lost hsaved hmetadata hsteps hreplaces =>
      exact .lost (hsaved'.trans hsaved) (hmeta.trans hmetadata) (hvault ▸ hsteps) hreplaces
  | @lost err s' ds c hstep hc hcontent hsaved' hreplaces' =>
    cases h with
    | kept hsaved hmetadata hsteps hreport =>
      rw [hsaved] at hcontent
      have hvault : s'.vault = s₀.vault := congrArg Content.vault hcontent
      have hnone : Vault.Steps s₀.vault [] s'.vault := by
        rw [hvault]
        exact .nil _
      exact .lost hsaved' (congrArg Content.metadata hcontent) hnone
        (hsteady.replaces ▸ hreplaces')
    | lost hsaved hmetadata hsteps hreplaces =>
      rw [hsaved] at hcontent
      have hvault : s'.vault = c.vault := congrArg Content.vault hcontent
      have hmeta : s'.metadata = c.metadata := congrArg Content.metadata hcontent
      exact .lost hsaved' (hmeta.trans (hc.trans hmetadata)) (hvault ▸ hsteps.append hstep) hreplaces

end Store

/-! ## 2. Plain writes -/

namespace Write

variable {π : Type} [Processor π] {β : Type}

/-- The write changes and looks at records, and does nothing else. -/
def Plain : Write β → Prop
  | .done _ _ => True
  | .edit _ next => ∀ r, (next r).Plain
  | .record? _ next => ∀ r, (next r).Plain
  | .find? _ next => ∀ r, (next r).Plain
  | .readAll next => ∀ r, (next r).Plain
  | .changes next => ∀ cs, (next cs).Plain
  | .writeMetadata _ _ => False
  | .rollback _ => False
  | .commit _ => False
  | .nested _ _ => False

omit [Processor π] in
/-- A step of a write that only looks leaves the device as it is. -/
theorem onStore_of_reads {α : Type} {a : Attempt Store α} (h : a.Reads) (d : Device π) :
    (Device.onStore a).perform d = ((a.perform d.store).1, d) := by
  rw [Device.onStore, perform_within, h d.store]

theorem run_edit (e : Edit) (next : Except SyncError (List LocalChange) → Write β)
    (cs : List LocalChange) (d : Device π) :
    (edit e next).run cs d = (next (e.attempt.perform d.store).1).run
      (cs ++ Store.reported (e.attempt.perform d.store).1)
      { d with store := (e.attempt.perform d.store).2 } := rfl

/-- **A plain write edits the store within the transaction, or behind the end of it.** -/
theorem Plain.worked {s₀ : Store} {w : Write β} (hw : w.Plain) {cs : List LocalChange} {d : Device π}
    (hsteady : s₀.Steady d.store) (hd : s₀.Worked cs d.store) :
    ∃ s, (w.run cs d).2 = { d with store := s } ∧ s₀.Steady s ∧
      s₀.Worked (w.run cs d).1.changes s := by
  induction w generalizing cs d with
  | done value failure => exact ⟨d.store, rfl, hsteady, hd⟩
  | edit e next ih =>
    rw [run_edit]
    rcases hres : e.attempt.perform d.store with ⟨res, s⟩
    obtain ⟨hedited, hs⟩ := Store.edited hres
    exact ih res (hw _) (hsteady.trans hs) (hd.edit hsteady hedited)
  | record? key next ih =>
    rw [run, onStore_of_reads (Store.reads_record? key)]
    exact ih _ (hw _) hsteady hd
  | find? key next ih =>
    rw [run, onStore_of_reads (Store.reads_find? key)]
    exact ih _ (hw _) hsteady hd
  | readAll next ih =>
    rw [run, onStore_of_reads Store.reads_readAll]
    exact ih _ (hw _) hsteady hd
  | changes next ih => exact ih cs (hw cs) hsteady hd
  | writeMetadata | rollback | commit | nested => exact hw.elim

/-! ## 3. Writes that give up -/

/-- The write ends with a failure as soon as an edit fails. -/
def GivesUp : Write β → Prop
  | .done _ _ => True
  | .edit _ next =>
    (∀ cs, (next (.ok cs)).GivesUp) ∧ ∀ e, ∃ value cause, next (.error e) = .done value (some cause)
  | .record? _ next => ∀ r, (next r).GivesUp
  | .find? _ next => ∀ r, (next r).GivesUp
  | .readAll next => ∀ r, (next r).GivesUp
  | .changes next => ∀ cs, (next cs).GivesUp
  | .writeMetadata _ _ => False
  | .rollback _ => False
  | .commit _ => False
  | .nested _ _ => False

/-- **A write that gives up stays in its transaction, or ends with the contents at its beginning.** -/
theorem GivesUp.contained {w : Write β} (hw : w.GivesUp) {c : Content} {cs : List LocalChange}
    {d : Device π} (hd : d.store.saved = some c) :
    (w.run cs d).2.store.saved = some c ∨ (w.run cs d).2.store.content = c := by
  induction w generalizing cs d with
  | done value failure => exact .inl hd
  | edit e next ih =>
    rw [run_edit]
    rcases hres : e.attempt.perform d.store with ⟨res, s⟩
    obtain ⟨hedited, -⟩ := Store.edited hres
    obtain ⟨hnext, hgive⟩ := hw
    cases hedited with
    | done _ _ hsaved _ => exact ih _ (hnext _) (hsaved.trans hd)
    | @failed err _ _ hsaved =>
      obtain ⟨value, cause, hdone⟩ := hgive err
      rw [hdone]
      exact .inl (hsaved.trans hd)
    | @lost err _ _ _ _ _ hcontent _ =>
      obtain ⟨value, cause, hdone⟩ := hgive err
      rw [hdone]
      rw [hd] at hcontent
      exact .inr hcontent
  | record? key next ih =>
    rw [run, onStore_of_reads (Store.reads_record? key)]
    exact ih _ (hw _) hd
  | find? key next ih =>
    rw [run, onStore_of_reads (Store.reads_find? key)]
    exact ih _ (hw _) hd
  | readAll next ih =>
    rw [run, onStore_of_reads Store.reads_readAll]
    exact ih _ (hw _) hd
  | changes next ih => exact ih cs (hw cs) hd
  | writeMetadata | rollback | commit | nested => exact hw.elim

end Write

end CredentialSync
