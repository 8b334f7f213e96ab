import CredentialSync.Proofs.Bridge.Collected
import CredentialSync.Proofs.Store.Ledger

/-!
# The model state that a merge leaves

Whatever the processor answers and the caller has collected, the last write of a merge is to the model
state (`Merge.asked_work`). So a merge that succeeds leaves the state that the caller wanted to be
stored, marked as done, and nothing of the state that was stored before (`Device.modelState?_merge`).

A caller who collects no change to the model state thereby loses the progress token, unless it was empty
(`Device.merge_keeps_token_iff`).
-/

namespace CredentialSync

open Attempt

/-! ## 1. The stored model state -/

namespace StoredMetadata

/-- The model state, if there is one that can be read. -/
def modelState? : StoredMetadata → Option ModelState
  | .values b => some b.modelState
  | .bytes _ state => state.bind fun stored => (ModelState.ofStored stored).toOption

/-- There is a place for the model state. -/
def KeepsState : StoredMetadata → Prop
  | .values _ => True
  | .bytes _ state => state.isSome

theorem keepsState_of_modelState? {m : StoredMetadata} {s : ModelState}
    (h : m.modelState? = some s) : m.KeepsState := by
  cases m with
  | values b => trivial
  | bytes entries state =>
    obtain ⟨stored, rfl, -⟩ := Option.bind_eq_some_iff.1 h
    rfl

theorem KeepsState.apply {m : StoredMetadata} (h : m.KeepsState) (w : MetadataWrite) :
    (m.apply w).KeepsState := by
  cases m with
  | values b => trivial
  | bytes entries state =>
    obtain ⟨stored, rfl⟩ := Option.isSome_iff_exists.1 h
    cases w <;> rfl

theorem KeepsState.applyAll {m : StoredMetadata} (h : m.KeepsState) (ws : List MetadataWrite) :
    (ws.foldl StoredMetadata.apply m).KeepsState := by
  induction ws generalizing m with
  | nil => exact h
  | cons w ws ih => exact ih (h.apply w)

/-- A state that was written is read back. -/
theorem KeepsState.modelState?_setState {m : StoredMetadata} (h : m.KeepsState) {s : ModelState}
    (hs : s.Fits) : (m.apply (.setState s)).modelState? = some s := by
  cases m with
  | values b => rfl
  | bytes entries state =>
    obtain ⟨stored, rfl⟩ := Option.isSome_iff_exists.1 h
    show (ModelState.ofBlob s.blob).toOption = some s
    rw [ModelState.ofBlob_blob hs]
    rfl

end StoredMetadata

theorem StoredMetadata.Shows.modelState? {m : StoredMetadata} {b : MetadataBatch} (h : m.Shows b) :
    m.modelState? = some b.modelState := by
  cases m with
  | values b' => exact congrArg (some ∘ MetadataBatch.modelState) h
  | bytes entries state =>
    obtain ⟨es, stored, -, rfl, -, hstored⟩ := h
    rw [StoredMetadata.modelState?, Option.bind_some, hstored]
    rfl

/-! ## 2. What a merge asks for -/

/-- The token that is wanted behind a merge where `s` is stored: that of the state to be stored, none if the
    state is to be cleared, and otherwise that of `s`. -/
def PendingMetadata.tokenOver (s : ModelState) (p : PendingMetadata) : List UInt8 :=
  match p.modelState with
  | some (.set state) => state.progressToken
  | some .clear => []
  | none => s.progressToken

theorem PendingMetadata.initialSyncDone_stateAfterMerge (p : PendingMetadata) :
    p.stateAfterMerge.initialSyncDone = true := by
  unfold stateAfterMerge
  split <;> rfl

/-- A merge goes by the state to be stored or cleared; without one it stores the empty token. -/
theorem PendingMetadata.progressToken_stateAfterMerge (p : PendingMetadata) :
    p.stateAfterMerge.progressToken = p.tokenOver {} := by
  unfold stateAfterMerge tokenOver
  rcases p.modelState with _ | (_ | _) <;> rfl

theorem PendingMetadata.tokenOver_eq_iff {p : PendingMetadata} {s : ModelState} :
    p.tokenOver {} = p.tokenOver s ↔ p.modelState ≠ none ∨ s.progressToken = [] := by
  unfold tokenOver
  rcases p.modelState with _ | (_ | _) <;> simp [eq_comm]

variable {π : Type} [Processor π]

namespace Merge

/-- **A merge that succeeds asks for the collected metadata behind everything else, and for the model state
    at the very end.** -/
theorem asked_work {changes : List RemoteChange} {s t : Scope π} {summary : MergeSummary}
    (h : (work changes).perform s = (.ok summary, t)) :
    ∃ ws, t.asked = ws ++ s.pending.writes ++ [.setState s.pending.stateAfterMerge] := by
  rw [work_eq] at h
  obtain ⟨met, u, hreconcile, hconclude⟩ := ok_of_bind h
  have hpending : u.pending = s.pending := by
    rw [← (direct_reconcile changes).pending s, hreconcile]
  rw [conclude, bind_of_ok (perform_get u), bind_of_ok (Work.perform_writePending u)] at hconclude
  obtain ⟨⟨⟩, v, hwrite, hconclude⟩ := ok_of_bind hconclude
  obtain ⟨⟨⟩, v', hsettle, hdone⟩ := ok_of_bind hconclude
  obtain ⟨rfl, -⟩ := Work.ok_of_settle hsettle
  cases hdone
  cases hwrite
  refine ⟨u.asked, ?_⟩
  rw [(Work.writes_keep _ _).2.2.2.2.2, (Work.writes_keep _ _).2.2.2.2.2, hpending]

end Merge

/-! ## 3. What a merge leaves -/

namespace Device

variable {changes : List RemoteChange} {d : Device π} {summary : MergeSummary} {s : ModelState}

/-- A merge that succeeds has written the state to be stored behind everything else. -/
theorem metadata_merge (hok : ((merge changes).perform d).1 = .ok summary) :
    ∃ ws : List MetadataWrite, ((merge changes).perform d).2.store.metadata =
      (ws.foldl StoredMetadata.apply d.store.metadata).apply (.setState d.pending.stateAfterMerge) := by
  have hbatched := batched .bridge .remote (body (Merge.work changes)) d
  rw [merge_result] at hok
  rw [(sameWork_merge changes d).store]
  rcases hbatched.result_cases with ⟨e, herror, -⟩ | ⟨met, cs, hresult, hcommitted⟩
  · rw [herror] at hok
    cases hok
  · have hwritten := metadata_of_orderly (Work.made_merge changes).orderly (Work.settles_merge changes)
      hresult
    rw [hcommitted] at hbatched
    obtain ⟨_, t, -, hres, -⟩ := hbatched.committed_work
    obtain ⟨ws, hasked⟩ := Merge.asked_work hres
    rw [hres, hasked, List.foldl_append] at hwritten
    exact ⟨_, hwritten⟩

/-- **The model state behind a merge.** It is the one that the caller has collected, marked as done, also if
    the processor has asked for another one. The length of the token must be below 2 ^ 64. -/
theorem modelState?_merge (hok : ((merge changes).perform d).1 = .ok summary)
    (hplace : d.store.metadata.KeepsState) (hfits : d.pending.stateAfterMerge.Fits) :
    ((merge changes).perform d).2.store.metadata.modelState? = some d.pending.stateAfterMerge := by
  obtain ⟨ws, hmetadata⟩ := metadata_merge hok
  rw [hmetadata]
  exact (hplace.applyAll ws).modelState?_setState hfits

/-- **A merge keeps the token of the stored state exactly if the caller has collected a change to the model
    state, or if there is no token to keep.** Without such a change the token is lost. -/
theorem merge_keeps_token_iff (hok : ((merge changes).perform d).1 = .ok summary)
    (hs : d.store.metadata.modelState? = some s) (hfits : d.pending.stateAfterMerge.Fits) :
    ∃ s', ((merge changes).perform d).2.store.metadata.modelState? = some s' ∧
      s'.initialSyncDone = true ∧ s'.progressToken = d.pending.tokenOver {} ∧
      (s'.progressToken = d.pending.tokenOver s ↔
        d.pending.modelState ≠ none ∨ s.progressToken = []) := by
  refine ⟨d.pending.stateAfterMerge,
    modelState?_merge hok (StoredMetadata.keepsState_of_modelState? hs) hfits,
    d.pending.initialSyncDone_stateAfterMerge, d.pending.progressToken_stateAfterMerge, ?_⟩
  rw [d.pending.progressToken_stateAfterMerge]
  exact PendingMetadata.tokenOver_eq_iff

/-- The state of an exchange that will go on somewhere. -/
def halfway : ModelState := { progressToken := [1, 2, 3] }

/-- A device that an earlier run has left half-way, and whose caller has collected nothing. -/
def resumed : Device Recorder :=
  { store := .table { content := { metadata := { modelState := halfway } } }
    processor := {}
    notifier := .ofCapacity 1 }

theorem fits_resumed : resumed.pending.stateAfterMerge.Fits :=
  show 0 < Blob.lengthLimit by decide

theorem merge_keeps_token_resumed :
    ((merge []).perform resumed).1 = .ok {} ∧ resumed.store.metadata.modelState? = some halfway ∧
      resumed.pending.stateAfterMerge.Fits ∧
      ∃ s', ((merge []).perform resumed).2.store.metadata.modelState? = some s' ∧
        s'.initialSyncDone = true ∧ s'.progressToken = resumed.pending.tokenOver {} ∧
        (s'.progressToken = resumed.pending.tokenOver halfway ↔
          resumed.pending.modelState ≠ none ∨ halfway.progressToken = []) :=
  ⟨rfl, rfl, fits_resumed, merge_keeps_token_iff rfl rfl fits_resumed⟩

/-- The merge succeeds, and the token of the earlier run is gone. -/
theorem resumed_loses_token :
    ((merge []).perform resumed).1 = .ok {} ∧ resumed.pending.modelState = none ∧
      resumed.store.metadata.modelState? = some halfway ∧
      ∃ s', ((merge []).perform resumed).2.store.metadata.modelState? = some s' ∧
        s'.progressToken ≠ halfway.progressToken :=
  ⟨rfl, rfl, rfl, _, rfl, by decide⟩

end Device

end CredentialSync
