import CredentialSync.Proofs.Store.Switches

/-!
# Replaying reported changes

Who knows the records before some edits and the changes that the edits reported can carry the changes
out on a copy: `LocalChange.replay` carries out one change, `LocalChange.replayAll` a list, and both
refuse a change that does not fit the records. What edits of a sound store report can be replayed, and
gives the records behind them (`Vault.Steps.replayAll`).

`Store.Candid` says that the store reports every addition. Whatever else it is told, its edits report
what they do (`told_of_candid`).
-/

namespace CredentialSync

open Attempt

/-! ## 1. Replaying -/

namespace LocalChange

/-- Carries a reported change out on a copy of the records: an addition needs a key that is not used, an
    update a key that is, and a removal a key that holds just the removed record. -/
def replay (c : LocalChange) (rs : SortedMap PrimaryKey Record) :
    Option (SortedMap PrimaryKey Record) :=
  match c.kind with
  | .add => if rs.contains c.key then none else some (rs.insert c.key c.record)
  | .update => if rs.contains c.key then some (rs.insert c.key c.record) else none
  | .remove => if rs.get? c.key = some c.record then some (rs.erase c.key) else none

/-- Carries reported changes out in order, as long as they fit. -/
def replayAll : List LocalChange → SortedMap PrimaryKey Record →
    Option (SortedMap PrimaryKey Record)
  | [], rs => some rs
  | c :: cs, rs => (c.replay rs).bind (replayAll cs)

end LocalChange

namespace Vault

theorem Step.replay {v v' : Vault} {c : LocalChange} (h : Step v c v') (hv : v.Sound) :
    c.replay v.records = some v'.records := by
  cases h with
  | add key r hfresh =>
    have hunused : v.records.contains key = false := by
      rw [SortedMap.contains, hv.fresh hfresh]
      rfl
    simp [LocalChange.replay, hunused]
  | update key old r hold _ =>
    have hused : v.records.contains key = true := by
      rw [SortedMap.contains, hold]
      rfl
    simp [LocalChange.replay, hused]
  | remove key old hold => simp [LocalChange.replay, hold]

/-- **Steps of a sound vault can be replayed, and give the records behind them.** -/
theorem Steps.replayAll {v v' : Vault} {cs : List LocalChange} (h : Steps v cs v') (hv : v.Sound) :
    LocalChange.replayAll cs v.records = some v'.records := by
  induction h with
  | nil => rfl
  | cons hc _ ih =>
    rw [LocalChange.replayAll, hc.replay hv]
    exact ih (hc.sound hv)

end Vault

/-! ## 2. Stores that report what they do -/

namespace Store

variable {s s' : Store}

/-- The store is not told to be silent about additions. -/
def Candid (s : Store) : Prop := ∀ faults, s.switches = .table faults → faults.silentAdds = false

theorem Candid.of_switches (h : s.Candid) (hswitches : s'.switches = s.switches) : s'.Candid :=
  fun faults hfaults => h faults (hswitches.symm.trans hfaults)

theorem Candid.of_quiet (h : s.Quiet) : s.Candid := by
  cases s with
  | table t =>
    have hf : t.faults = {} := h
    rintro faults hfaults
    cases hfaults
    rw [hf]
  | database d => exact fun _ hfaults => nomatch hfaults

theorem Candid.reports (h : s.Candid) (e : Edit) : s.silences e = false := by
  cases s with
  | table t => cases e <;> simp [silences, Table.silences, h _ rfl]
  | database d => rfl

/-- How an edit of a candid store ends: it does to the vault what it reports, changes nothing, or ends
    the open transaction. -/
inductive Told (s : Store) (e : Edit) : Except SyncError (List LocalChange) → Store → Prop where
  | done {cs : List LocalChange} {s' : Store}
      (hedit : s.vault.edit s.replaces e = some (cs, s'.vault)) (hsaved : s'.saved = s.saved) :
      Told s e (.ok cs) s'
  | failed {err : SyncError} {s' : Store} (hvault : s'.vault = s.vault)
      (hsaved : s'.saved = s.saved) : Told s e (.error err) s'
  | lost {err : SyncError} {s' : Store} (hsaved : s'.saved = none) (hreplaces : s.replaces = true) :
      Told s e (.error err) s'

/-- **A candid store reports what its edits do, and stays candid.** -/
theorem told_of_candid {e : Edit} {res : Except SyncError (List LocalChange)} (h : s.Candid)
    (hs : e.attempt.perform s = (res, s')) :
    Told s e res s' ∧ s'.Candid ∧ s'.replaces = s.replaces := by
  obtain ⟨hedited, hsteady⟩ := edited hs
  refine ⟨?_, ?_, hsteady.replaces⟩
  · cases hedited with
    | done hedit hreport hsaved =>
      rw [h.reports, if_neg Bool.false_ne_true] at hreport
      exact .done (hreport ▸ hedit) hsaved
    | failed hcontent hsaved => exact .failed (vault_congr hcontent) hsaved
    | lost _ _ _ hsaved hreplaces => exact .lost hsaved hreplaces
  · rw [Edit.attempt_eq] at hs
    rcases either_cases hs with ⟨t, t', rfl, rfl, ht⟩ | ⟨d, d', rfl, rfl, -⟩
    · rintro faults hfaults
      cases hfaults
      rw [(Table.edit_outcome ht).1.faults, Faults.silentAdds_counted, h _ rfl]
    · exact (nofun : (Store.database d').Candid)

end Store

end CredentialSync
