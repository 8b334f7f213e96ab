import CredentialSync.Proofs.Store.Transactions

/-!
# What holds of a store throughout

A property of contents holds of a store `Store.Throughout` if it holds of the contents now and of those
at the beginning of the open transaction, so that a rollback cannot destroy it. Beginning and ending a
transaction keep it without further ado; edits keep it if the steps of a vault do, and writes to the
metadata if they do.

`Store.Stable` collects what an operation of a store may be: whatever all of them keep, everything built
of them keeps. One such property is that some keys have been given out (`Store.Floor`).
-/

namespace CredentialSync.Store

open Attempt

variable {P : Content → Prop} {s s' : Store}

/-! ## 1. Now and at the beginning of the transaction -/

/-- The property holds of the contents now and at the beginning of the open transaction. -/
structure Throughout (P : Content → Prop) (s : Store) : Prop where
  content : P s.content
  saved : ∀ c, s.saved = some c → P c

namespace Throughout

theorem of_content (h : s.Throughout P) (hc : s'.content = s.content) (hsaved : s'.saved = s.saved) :
    s'.Throughout P :=
  ⟨hc ▸ h.content, hsaved ▸ h.saved⟩

/-- The transaction has ended, and what was done in it is undone. -/
theorem of_saved {c : Content} (h : s.Throughout P) (hc : s'.content = s.saved.getD c)
    (hsaved : s'.saved = none) (hv : P c) : s'.Throughout P := by
  refine ⟨?_, fun c' hc' => by rw [hsaved] at hc'; cases hc'⟩
  rw [hc]
  cases hs : s.saved with
  | none => exact hv
  | some c' => exact h.saved c' hs

theorem begin {res : Except SyncError Unit} (h : s.Throughout P)
    (hs : Store.begin.perform s = (res, s')) : s'.Throughout P := by
  cases res with
  | ok u =>
    obtain ⟨-, hsaved, hcontent, -⟩ := begin_ok hs
    refine ⟨hcontent ▸ h.content, fun c hc => ?_⟩
    rw [hsaved] at hc
    cases hc
    exact h.content
  | error e => exact begin_error hs ▸ h

theorem commit {res : Except SyncError Unit} (h : s.Throughout P)
    (hs : Store.commit.perform s = (res, s')) : s'.Throughout P := by
  cases res with
  | ok u =>
    obtain ⟨hcontent, hsaved, -⟩ := commit_ok hs
    exact ⟨hcontent ▸ h.content, fun c hc => by rw [hsaved] at hc; cases hc⟩
  | error e => exact commit_error hs ▸ h

theorem rollback {res : Except SyncError Unit} (h : s.Throughout P)
    (hs : Store.rollback.perform s = (res, s')) : s'.Throughout P := by
  by_cases hr : s.CanRollBack
  · obtain ⟨t, ht, hcontent, hsaved, -⟩ := rollback_perform hr
    rw [ht] at hs
    cases hs
    exact h.of_saved hcontent hsaved h.content
  · cases s with
    | table t =>
      have hf : t.faults.rollbacks = true := by simpa [CanRollBack] using hr
      simp [Store.rollback, either, Table.rollback, perform_bind, hf] at hs
      exact hs.2 ▸ h
    | database d => exact absurd trivial hr

/-- An edit keeps what the steps of a vault keep. -/
theorem edit {e : Edit} {res : Except SyncError (List LocalChange)} (h : s.Throughout P)
    (hsteps : ∀ c cs, Vault.Steps s.vault cs c.vault → c.metadata = s.metadata → P c)
    (hs : e.attempt.perform s = (res, s')) : s'.Throughout P := by
  cases (edited hs).1 with
  | done hedit _ hsaved hmetadata =>
    exact ⟨hsteps _ _ (Vault.steps_of_edit hedit) hmetadata, hsaved ▸ h.saved⟩
  | failed hcontent hsaved => exact h.of_content hcontent hsaved
  | lost hs' hmetadata hcontent hsaved _ => exact h.of_saved hcontent hsaved (hsteps _ _ hs' hmetadata)

/-- A write to the metadata keeps what does not depend on the entry that is written. -/
theorem writeMetadata {w : MetadataWrite} {res : Except SyncError Unit} (h : s.Throughout P)
    (hwrites : ∀ c : Content, c.vault = s.vault → c.metadata = s.metadata.apply w → P c)
    (hs : (Store.writeMetadata w).perform s = (res, s')) : s'.Throughout P := by
  obtain ⟨hwritten, hsaved, -⟩ := written hs
  cases hwritten with
  | done hmetadata hvault => exact ⟨hwrites _ hvault hmetadata, hsaved ▸ h.saved⟩
  | failed hcontent => exact h.of_content hcontent hsaved

end Throughout

/-! ## 2. What all operations keep -/

/-- Every operation of a store keeps the property, whether it succeeds or fails. -/
structure Stable (Q : Store → Prop) : Prop where
  edit : ∀ {s s' : Store} {e : Edit} {res : Except SyncError (List LocalChange)},
    Q s → e.attempt.perform s = (res, s') → Q s'
  begin : ∀ {s s' : Store} {res : Except SyncError Unit},
    Q s → Store.begin.perform s = (res, s') → Q s'
  commit : ∀ {s s' : Store} {res : Except SyncError Unit},
    Q s → Store.commit.perform s = (res, s') → Q s'
  rollback : ∀ {s s' : Store} {res : Except SyncError Unit},
    Q s → Store.rollback.perform s = (res, s') → Q s'
  writeMetadata : ∀ {s s' : Store} {w : MetadataWrite} {res : Except SyncError Unit},
    Q s → (Store.writeMetadata w).perform s = (res, s') → Q s'

/-- All keys up to this one have been given out, also if the open transaction is undone. -/
def Floor (key : PrimaryKey) : Store → Prop := Throughout fun c => key ≤ c.vault.lastKey

/-- **Keys that have been given out stay so.** -/
theorem stable_floor (key : PrimaryKey) : Stable (Floor key) where
  edit h hs := h.edit (fun _ _ hsteps _ => Int64.le_trans h.content hsteps.lastKey_le) hs
  begin h hs := h.begin hs
  commit h hs := h.commit hs
  rollback h hs := h.rollback hs
  writeMetadata h hs := h.writeMetadata (fun _ hvault _ => hvault ▸ h.content) hs

/-- Where no transaction is open, nothing that was given out can be given back. -/
theorem floor_of_closed (h : s.saved = none) : s.Floor s.vault.lastKey :=
  ⟨Int64.le_refl _, fun _ hc => by rw [h] at hc; cases hc⟩

end CredentialSync.Store
