import CredentialSync.Proofs.Bridge.Calls
import CredentialSync.Proofs.Bridge.Stable
import CredentialSync.Proofs.Mirror.Overheard
import CredentialSync.Proofs.Store.Switches

/-!
# Sessions

A session is a run of `Turn`s: calls of the bridge, batches of either side, metadata that the caller collects,
and what the store is told from outside. Every turn may fail.

`Turn.Each` says that something holds of every turn of a session at the device where it is taken. In the
course of a session no key that was given out for good is given out again (`Turn.lastKey_le`).
-/

namespace CredentialSync

open Attempt Device

/-- Tells a store something from outside. It is of no account to a store of the other kind. -/
def Store.tell : Store.Switches → Store → Store
  | .table faults, .table t => .table { t with faults }
  | .database locked readOnly busy, .database d => .database { d with locked, readOnly, busy }
  | _, s => s

theorem Store.content_tell (x : Store.Switches) (s : Store) : (s.tell x).content = s.content := by
  cases x <;> cases s <;> rfl

/-- The changes of a batch, if it was committed. -/
def Device.BatchOutcome.committed? {β : Type} : BatchOutcome β → Option (List LocalChange)
  | .refused _ => none
  | .abandoned _ _ => none
  | .committed _ cs => some cs

/-- What happens in a session. -/
inductive Turn (β : Type) where
  /-- The bridge is asked to merge, to apply, to forget the metadata, or to write. -/
  | call (c : Call β)
  /-- Synchronisation ends, and the metadata stays. -/
  | stop
  /-- A write runs as one batch of a side. -/
  | batch (batcher : Batcher) (side : Side) (w : Write β)
  /-- The caller collects a change to the metadata. -/
  | collect (w : MetadataWrite)
  /-- The store is told something from outside. -/
  | tell (x : Store.Switches)

variable {π : Type} [Processor π] {α β : Type}

namespace Turn

/-- Carries a turn out. -/
def run : Turn β → Device π → Except SyncError Unit × Device π
  | .call c, d => c.run d
  | .stop, d => (Device.stopSync false).perform d
  | .batch batcher side w, d =>
    ((d.batch batcher side (w.run [])).1.ending, (d.batch batcher side (w.run [])).2)
  | .collect w, d => (.ok (), { d with pending := d.pending.push w })
  | .tell x, d => (.ok (), d.withStore (d.store.tell x))

/-- Carries turns out, one after another. -/
def runAll : List (Turn β) → Device π → Device π
  | [], d => d
  | t :: ts, d => runAll ts (t.run d).2

/-- Something holds of each turn, at the device where it is taken. -/
def Each (P : Device π → Turn β → Prop) : List (Turn β) → Device π → Prop
  | [], _ => True
  | t :: ts, d => P d t ∧ Each P ts (t.run d).2

/-- The changes of the batch that the turn commits, if it commits one. -/
def committed? : Turn β → Device π → Option (List LocalChange)
  | .call (.merge changes), d => (d.batch .bridge .remote (body (Merge.work changes))).1.committed?
  | .call (.apply changes), d => (d.batch .bridge .remote (body (Apply.work changes))).1.committed?
  | .call .forget, d => (d.batch .bridge .remote (body forgetMetadata)).1.committed?
  | .call (.write w), d => (d.write w).1.committed?
  | .batch batcher side w, d => (d.batch batcher side (w.run [])).1.committed?
  | .stop, _ => none
  | .collect _, _ => none
  | .tell _, _ => none

/-- A device with an empty table and a bridge, whose processor is overheard. -/
def listening : Device (Overheard Recorder) :=
  Device.connect "" { store := .table {}, processor := ⟨{}, []⟩, notifier := .ofCapacity 1 }

/-- An entity of the remote side. -/
def arrival (realm : String) : Entity := Entity.ofRecord (.sample realm)

theorem runAll_append (ts us : List (Turn β)) (d : Device π) :
    runAll (ts ++ us) d = runAll us (runAll ts d) := by
  induction ts generalizing d with
  | nil => rfl
  | cons t ts ih => exact ih (t.run d).2

end Turn

/-! ## 1. Keys that were given out -/

namespace Device

/-- The body keeps what all operations of a store keep. -/
def Keeps (body : Device π → Draft β × Device π) : Prop :=
  ∀ {Q : Store → Prop}, Store.Stable Q → ∀ d, Q d.store → Q (body d).2.store

theorem keeps_body {w : Work π α} (hw : w.Made) : Keeps (body w) := fun hQ d hd =>
  hw.stable hQ (s := d.scope) hd

theorem keeps_write (w : Write β) : Keeps (w.run [] : Device π → Draft β × Device π) := fun hQ _ hd =>
  (Holds.write hQ (R := fun _ => True) (fun _ _ _ h => h) ⟨hd, trivial⟩ []).store

/-- **A batch gives no key back that was given out before it.** -/
theorem lastKey_le_batch {body : Device π → Draft β × Device π} (hbody : Keeps body) (batcher : Batcher)
    (side : Side) (d : Device π) :
    d.store.vault.lastKey ≤ (d.batch batcher side body).2.store.vault.lastKey := by
  cases hsaved : d.store.saved with
  | none =>
    have hQ := Store.stable_floor d.store.vault.lastKey
    have hstart : d.Holds (Store.Floor d.store.vault.lastKey) fun _ => True :=
      ⟨Store.floor_of_closed hsaved, trivial⟩
    exact (hstart.batch hQ (fun _ _ _ h => h) batcher side
      fun d hd => ⟨hbody hQ d hd.store, trivial⟩).store.content
  | some c =>
    obtain ⟨e, hrefused⟩ := Store.begin_refused hsaved
    have hsame : (d.batch batcher side body).2.store = d.store := by
      unfold batch
      rw [onStore_perform, hrefused]
      rfl
    rw [hsame]
    exact Int64.le_refl _

end Device

namespace Turn

/-- Merges and applications work as their batches do. -/
theorem sameWork_merge (changes : List RemoteChange) (d : Device π) :
    SameWork (d.batch .bridge .remote (body (Merge.work changes))).2
      ((call (.merge changes) : Turn β).run d).2 := by
  rw [run, Call.run, perform_map]
  exact Device.sameWork_merge changes d

theorem sameWork_apply (changes : List RemoteChange) (d : Device π) :
    SameWork (d.batch .bridge .remote (body (Apply.work changes))).2
      ((call (.apply changes) : Turn β).run d).2 := by
  rw [run, Call.run, perform_map]
  exact Device.sameWork_apply changes d

/-- **No turn gives a key back that was given out before it.** -/
theorem lastKey_le (t : Turn β) (d : Device π) :
    d.store.vault.lastKey ≤ (t.run d).2.store.vault.lastKey := by
  cases t with
  | call c =>
    cases c with
    | merge changes =>
      rw [(sameWork_merge changes d).store]
      exact lastKey_le_batch (keeps_body (Work.made_merge changes)) _ _ d
    | apply changes =>
      rw [(sameWork_apply changes d).store]
      exact lastKey_le_batch (keeps_body (Work.made_apply changes)) _ _ d
    | forget =>
      rw [run, Call.run, stopSync_perform]
      exact lastKey_le_batch (keeps_body Work.made_forget) _ _ d
    | write w => exact lastKey_le_batch (keeps_write w) _ _ d
  | batch batcher side w => exact lastKey_le_batch (keeps_write w) _ _ d
  | tell x =>
    rw [run, store_withStore, Store.vault_congr (Store.content_tell x d.store)]
    exact Int64.le_refl _
  | stop | collect => exact Int64.le_refl _

end Turn

end CredentialSync
