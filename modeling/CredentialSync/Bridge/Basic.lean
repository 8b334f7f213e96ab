import CredentialSync.Bridge.Apply
import CredentialSync.Bridge.Write

/-!
# The sync bridge

What a device can do once its store is to be synchronised.

* `connect` makes a bridge: it registers the relay and hands the stored metadata to the processor.
  `disconnect` takes the bridge away.
* `merge` and `apply` take in remote changes, `stopSync` forgets the metadata, each as one batch of
  the remote side.
* `data` and `dump` give records as entities, the latter with a placeholder for every secret.
-/

namespace CredentialSync.Device

variable {π : Type} [Processor π]

/-! ## 1. Making and removing a bridge -/

/-- Releases the relay of the bridge and removes the bridge. -/
def disconnect (d : Device π) : Device π :=
  match d.bridge with
  | none => d
  | some b => { d with notifier := d.notifier.release b.relay, bridge := none }

/-- Hands the stored metadata to the processor, or the reason why it cannot be read. -/
def start (d : Device π) : Device π :=
  match (onStore Store.readMetadata).perform d with
  | (.ok metadata, d) => { d with processor := Processor.ready metadata d.processor }
  | (.error e, d) => { d with processor := Processor.report e d.processor }

/-- Makes a bridge; one that is there is replaced. -/
def connect (placeholder : String) (d : Device π) : Device π :=
  let (relay, notifier) := d.notifier.observer
  let d := { d with notifier := notifier.register relay }.start
  { d.disconnect with bridge := some { relay, placeholder } }

/-! ## 2. Remote changes -/

/-- Merges all entities of the remote side into the store. -/
def merge (changes : List RemoteChange) : Attempt (Device π) MergeSummary := do
  let (outcome, d) := (← get).batch .bridge .remote (body (Merge.work changes))
  set (d.measure .mergeDuration 0)
  let summary ← Attempt.ofExcept outcome.result
  modify fun d => d
    |>.measure .mergeMatched summary.matched
    |>.measure .mergeRemoteOnly summary.remoteOnly
    |>.measure .mergeLocalOnly summary.localOnly
  return summary

/-- Applies remote changes to the store. -/
def apply (changes : List RemoteChange) : Attempt (Device π) ApplySummary := do
  let (outcome, d) := (← get).batch .bridge .remote (body (Apply.work changes))
  set (d.measure .applyDuration 0)
  match outcome.result with
  | .error e =>
    modify (measure .applyFailed 1)
    throw e
  | .ok summary =>
    modify fun d => d
      |>.measure .applyChanges summary.total
      |>.tally (Stats.addApplied (UInt64.ofNat summary.total))
    return summary

/-- Clears all metadata within a transaction. -/
def forgetMetadata : Work π Unit := do
  let metadata ← Work.onStore Store.readMetadata
  Work.write (metadata.entities.keys.map .clear ++ [.clearState])
  Work.settle

/-- Ends synchronisation; `delete` says whether the metadata is to be forgotten. -/
def stopSync (delete : Bool) : Attempt (Device π) Unit := do
  if delete then
    let (outcome, d) := (← get).batch .bridge .remote (body forgetMetadata)
    set d
    Attempt.ofExcept outcome.result

/-! ## 3. Records as entities -/

omit [Processor π] in
/-- The entities of the records under some storage keys; keys without a record are left out. -/
def data : List StorageKey → Attempt (Device π) (List (StorageKey × Entity))
  | [] => return []
  | key :: keys => do
    let k ← Attempt.ofExcept (StorageKey.primaryKey key)
    match ← onStore (Store.record? k) with
    | some r => return (key, Entity.ofRecord r) :: (← data keys)
    | none => data keys

omit [Processor π] in
/-- The entities of all records, with the placeholder of the bridge in place of every secret. -/
def dump : Attempt (Device π) (List (StorageKey × Entity)) := do
  let placeholder := ((← get).bridge.map (·.placeholder)).getD ""
  let records ← onStore Store.readAll
  return records.toList.map fun (key, r) =>
    (PrimaryKey.storageKey key, Entity.ofRecord (r.withPassword placeholder))

end CredentialSync.Device
