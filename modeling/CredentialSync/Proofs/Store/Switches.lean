import CredentialSync.Proofs.Store.Transactions

/-!
# What a store is told from outside

The `Switches` of a store are the faults of a table, or what stands in the way of a database. No operation
on transactions or metadata changes them, and they decide how those operations end:

* a transaction begins or is refused as at any other time when none is open (`begin_congr`), and it is
  refused exactly if the store is told so (`begin_fails_iff`);
* a commit of an open transaction fails exactly if the store is told so (`commit_fails_iff`).
-/

namespace CredentialSync

open Attempt

namespace Store

/-- What a store is told from outside. -/
inductive Switches where
  | table (faults : Faults)
  | database (locked readOnly busy : Bool)
  deriving DecidableEq

/-- What the store is told. -/
def switches : Store → Switches
  | .table t => .table t.faults
  | .database d => .database d.locked d.readOnly d.busy

/-- Whether the store is told to fail when a transaction begins. -/
def Switches.beginsFail : Switches → Bool
  | .table faults => faults.begins
  | .database locked readOnly _ => locked && !readOnly

/-- Whether the store is told to fail when a transaction is committed. -/
def Switches.commitsFail : Switches → Bool
  | .table faults => faults.commits
  | .database _ readOnly busy => busy && !readOnly

variable {s s' : Store}

/-! ## 1. Operations that leave the switches alone -/

theorem switches_begin {res : Except SyncError Unit} (h : begin.perform s = (res, s')) :
    s'.switches = s.switches := by
  rcases either_cases h with ⟨t, t', rfl, rfl, ht⟩ | ⟨d, d', rfl, rfl, hd⟩
  · rcases table_begin_cases ht with ⟨-, -, -, -, hf⟩ | ⟨_, -, rfl⟩
    · exact congrArg Switches.table hf
    · rfl
  · rcases database_begin_cases hd with ⟨-, -, rfl⟩ | ⟨_, -, rfl⟩ <;> rfl

theorem switches_commit {res : Except SyncError Unit} (h : commit.perform s = (res, s')) :
    s'.switches = s.switches := by
  rcases either_cases h with ⟨t, t', rfl, rfl, ht⟩ | ⟨d, d', rfl, rfl, hd⟩
  · rcases table_commit_cases ht with ⟨-, -, -, hf⟩ | ⟨_, -, rfl⟩
    · exact congrArg Switches.table hf
    · rfl
  · rcases database_commit_cases hd with ⟨-, rfl⟩ | ⟨_, -, rfl⟩ <;> rfl

theorem switches_rollback (s : Store) : (rollback.perform s).2.switches = s.switches := by
  cases s with
  | table t =>
    cases hf : t.faults.rollbacks <;>
      simp [rollback, either, Table.rollback, perform_bind, hf, switches]
  | database d => rfl

theorem switches_writeMetadata {w : MetadataWrite} {res : Except SyncError Unit}
    (h : (writeMetadata w).perform s = (res, s')) : s'.switches = s.switches := by
  rcases either_cases h with ⟨t, t', rfl, rfl, ht⟩ | ⟨d, d', rfl, rfl, hd⟩
  · exact congrArg Switches.table (table_writeMetadata_cases ht).2.1
  · rcases database_writeMetadata_cases hd with ⟨-, -, -, -, hl, hro, hb⟩ | ⟨_, -, rfl⟩
    · rw [switches, switches, hl, hro, hb]
    · rfl

/-! ## 2. What the switches decide -/

/-- **Whether a transaction begins depends on the switches only, while none is open.** -/
theorem begin_congr (hswitches : s'.switches = s.switches) (hs : s.saved = none)
    (hs' : s'.saved = none) : (begin.perform s').1 = (begin.perform s).1 := by
  cases s with
  | table t =>
    cases s' with
    | table t' =>
      have hf : t'.faults = t.faults := Switches.table.inj hswitches
      have hnone : t.saved = none := by simpa [saved] using hs
      have hnone' : t'.saved = none := by simpa [saved] using hs'
      cases hb : t.faults.begins <;>
        simp [begin, either, Table.begin, perform_bind, hf, hb, hnone, hnone']
    | database d' => cases hswitches
  | database d =>
    cases s' with
    | table t' => cases hswitches
    | database d' =>
      obtain ⟨hl, hro, -⟩ := Switches.database.inj hswitches
      have hnone : d.saved = none := by simpa [saved] using hs
      have hnone' : d'.saved = none := by simpa [saved] using hs'
      cases hb : d.locked <;> cases hm : d.readOnly <;>
        simp [begin, either, Database.begin, perform_bind, hl, hro, hb, hm, hnone, hnone']

/-- **A transaction that could begin is refused only if the store is told so.** -/
theorem begin_fails_iff (hs : s.saved = none) :
    (∃ e, begin.perform s = (.error e, s)) ↔ s.switches.beginsFail = true := by
  cases s with
  | table t =>
    have hnone : t.saved = none := by simpa [saved] using hs
    cases hb : t.faults.begins <;>
      simp [begin, either, Table.begin, perform_bind, switches, Switches.beginsFail, hb, hnone]
  | database d =>
    have hnone : d.saved = none := by simpa [saved] using hs
    cases hl : d.locked <;> cases hro : d.readOnly <;>
      simp [begin, either, Database.begin, perform_bind, switches, Switches.beginsFail, hl, hro, hnone]

/-- A store in a transaction refuses to begin another one. -/
theorem begin_refused {c : Content} (hs : s.saved = some c) :
    ∃ e, begin.perform s = (.error e, s) := by
  rcases hres : begin.perform s with ⟨e | _, s'⟩
  · exact ⟨e, by rw [begin_error hres]⟩
  · rw [(begin_ok hres).1] at hs
    cases hs

/-- **A commit of an open transaction fails only if the store is told so.** -/
theorem commit_fails_iff {c : Content} (hs : s.saved = some c) :
    (∃ e, commit.perform s = (.error e, s)) ↔ s.switches.commitsFail = true := by
  cases s with
  | table t =>
    cases hf : t.faults.commits <;>
      simp [commit, either, Table.commit, perform_bind, switches, Switches.commitsFail, hf]
  | database d =>
    have hopen : d.saved ≠ none := fun hd => by simp [saved, hd] at hs
    cases hb : d.busy <;> cases hro : d.readOnly <;>
      simp [commit, either, Database.commit, perform_bind, switches, Switches.commitsFail, hb, hro,
        hopen]

end Store

end CredentialSync
