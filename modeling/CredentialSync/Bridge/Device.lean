import CredentialSync.Bridge.Scope
import CredentialSync.Metrics
import CredentialSync.Notifier

/-!
# Devices

A `Device` is everything that works together on one side: the record store, the change processor,
the metadata that its caller has collected, the observers of committed batches, and the bridge
between store and processor while there is one.

This file also holds the two ways in which work reaches the store:

* `Device.relay` forwards a committed batch of this device to the processor, in a transaction of
  its own;
* `Device.batch` runs a body in one transaction: it is committed if the body succeeds and rolled
  back if not, and the changes of a committed batch are notified.
-/

namespace CredentialSync

/-! ## 1. State -/

/-- The bridge between the store and the processor of a device. -/
structure Bridge where
  /-- The observer that relays local changes. -/
  relay : ObserverId
  stats : Stats := {}
  /-- What stands for a secret in a dump. -/
  placeholder : String := ""
  deriving DecidableEq

/-- One side of the synchronisation. -/
structure Device (π : Type) where
  store : Store
  processor : π
  /-- Metadata that the caller has collected for the next merge or apply. -/
  pending : PendingMetadata := {}
  notifier : Notifier
  bridge : Option Bridge := none
  metrics : List Measurement := []

namespace Device

variable {π : Type}

/-- Notes a measurement. -/
def measure (metric : Metric) (value : Nat) (d : Device π) : Device π :=
  { d with metrics := d.metrics ++ [⟨metric, value⟩] }

/-- Changes the statistics of the bridge. -/
def tally (f : Stats → Stats) (d : Device π) : Device π :=
  { d with bridge := d.bridge.map fun b => { b with stats := f b.stats } }

/-- An operation on the store of a device. -/
def onStore {α : Type} (a : Attempt Store α) : Attempt (Device π) α :=
  Attempt.within Device.store (fun t d => { d with store := t }) a

/-- Takes back what an operation worked on. -/
def putScope (s : Scope π) (d : Device π) : Device π :=
  { d with store := s.store, processor := s.processor, pending := s.pending }

/-- The scope of an operation that begins. -/
def scope (d : Device π) : Scope π :=
  { store := d.store, processor := d.processor, pending := d.pending }

/-! ## 2. The relay -/

section Relay

variable [Processor π]

/-- Announces changes; gives the number of records put and of those deleted. -/
def announce : List LocalChange → Work π (Nat × Nat)
  | [] => return (0, 0)
  | c :: cs => do
    match c.kind with
    | .remove => Work.delete c.storageKey
    | _ => Work.put c.storageKey (Entity.ofRecord c.record)
    let (puts, deletes) ← announce cs
    return if c.kind = .remove then (puts, deletes + 1) else (puts + 1, deletes)

/-- Announces a batch to the processor and writes what it answers, in one transaction. If an answer
cannot be written, the transaction is rolled back. -/
def forward (batch : ChangeBatch) : Attempt (Device π) Unit := do
  onStore Store.begin
  let (outcome, s) := (announce batch.changes).perform (← get).scope
  modify (putScope s)
  let (puts, deletes) ← Attempt.ofExcept outcome
  match s.writeFault with
  | some e =>
    try onStore Store.rollback catch _ => pure ()
    throw e
  | none =>
    onStore Store.commit
    modify fun d => d
      |>.measure .relayPut puts
      |>.measure .relayDelete deletes
      |>.tally (Stats.addRelayed (UInt64.ofNat (puts + deletes)))

/-- What the relay does with a committed batch: batches of the remote side, and all batches while
the processor is not interested, are skipped; a failure is reported to the processor. -/
def relay (batch : ChangeBatch) (d : Device π) : Device π :=
  if batch.isLocal && Processor.isTracking d.processor then
    match (forward batch).perform d with
    | (.ok _, d) => d
    | (.error e, d) => { d with processor := Processor.report e d.processor }
  else (d.measure .relaySkipped 1).tally Stats.addRelaySkipped

/-- Tells observers and receivers about a committed batch. -/
def notify (batch : ChangeBatch) (d : Device π) : Device π :=
  (Notifier.notify Device.notifier (fun n d => { d with notifier := n })
    (fun observer batch d =>
      if d.bridge.any (·.relay == observer) then d.relay batch else d) batch d).2

end Relay

/-! ## 3. Batches -/

/-- What the body of a batch hands back. -/
structure Draft (β : Type) where
  value : β
  /-- The changes that the body made. -/
  changes : List LocalChange
  /-- Why the body failed, if it did. -/
  failure : Option SyncError

/-- How a batch ended. -/
inductive BatchOutcome (β : Type) where
  /-- No transaction could be opened; the body did not run. -/
  | refused (cause : SyncError)
  /-- The transaction was rolled back. -/
  | abandoned (value : β) (cause : SyncError)
  /-- The transaction was committed. -/
  | committed (value : β) (changes : List LocalChange)

/-- Whose statistics count a batch. -/
inductive Batcher where
  /-- The bridge's own. -/
  | bridge
  /-- Statistics that nobody looks at. -/
  | separate
  deriving DecidableEq

/-- Counts a batch. -/
def countBatch (batcher : Batcher) (f : Stats → Stats) (d : Device π) : Device π :=
  match batcher with
  | .bridge => d.tally f
  | .separate => d

/-- Rolls a batch back, whether or not the store can, and counts it. -/
def abandon (batcher : Batcher) (d : Device π) : Device π :=
  ((onStore Store.rollback).perform d).2
    |>.countBatch batcher Stats.addRolledBack
    |>.measure .batchRolledBack 1

/-- Runs a body as one transaction of a side. -/
def batch [Processor π] {β : Type} (batcher : Batcher) (side : Side)
    (body : Device π → Draft β × Device π) (d : Device π) : BatchOutcome β × Device π :=
  match (onStore Store.begin).perform d with
  | (.error e, d) => (.refused e, d)
  | (.ok _, d) =>
    let (draft, d) := body d
    match draft.failure with
    | some e => (.abandoned draft.value e, d.abandon batcher)
    | none =>
      match (onStore Store.commit).perform d with
      | (.error e, d) => (.abandoned draft.value e, d.abandon batcher)
      | (.ok _, d) =>
        let d := d.countBatch batcher Stats.addCommitted
          |>.measure .batchCommitted 1
          |>.measure .batchSize draft.changes.length
        let d := if draft.changes.isEmpty then d else d.notify ⟨side, draft.changes⟩
        (.committed draft.value draft.changes, d)

/-- Work within a scope as the body of a batch. -/
def body {α : Type} (w : Work π α) (d : Device π) : Draft (Except SyncError α) × Device π :=
  let (outcome, s) := w.perform d.scope
  let failure := match outcome with
    | .ok _ => none
    | .error e => some e
  (⟨outcome, s.changes, failure⟩, d.putScope s)

/-- What a batch of work gives to its caller. -/
def BatchOutcome.result {α : Type} : BatchOutcome (Except SyncError α) → Except SyncError α
  | .refused e => .error e
  | .abandoned _ e => .error e
  | .committed value _ => value

end Device

end CredentialSync
