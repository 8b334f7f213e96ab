import CredentialSync.Bridge.Device

/-!
# Writes

A `Write β` describes a write on this device as a tree: each node is one step, and what comes next
depends on the answer of the step. A write may change records, look at them, touch metadata and the
transaction itself, and write again within the transaction. It ends with a value and, if it failed,
with the cause.

`Device.write` runs it as one batch of this device.
-/

namespace CredentialSync

/-- A change to a record. -/
inductive Edit where
  | add (record : Record)
  | update (record : Record)
  | updateAt (key : PrimaryKey) (record : Record)
  | remove (key : PrimaryKey)
  deriving DecidableEq

/-- The operation of the store that makes a change. -/
def Edit.attempt : Edit → Attempt Store (List LocalChange)
  | .add r => Store.add r
  | .update r => Store.update r
  | .updateAt key r => Store.updateAt key r
  | .remove key => Store.remove key

/-- A write, step by step. -/
inductive Write (β : Type) where
  /-- The end of the write. -/
  | done (value : β) (failure : Option SyncError)
  /-- Changes a record. -/
  | edit (e : Edit) (next : Except SyncError (List LocalChange) → Write β)
  /-- Looks at the record under a key. -/
  | record? (key : PrimaryKey) (next : Except SyncError (Option Record) → Write β)
  /-- Looks for a natural key. -/
  | find? (key : NaturalKey) (next : Except SyncError (Option PrimaryKey) → Write β)
  /-- Looks at all records. -/
  | readAll (next : Except SyncError (SortedMap PrimaryKey Record) → Write β)
  /-- Asks for the changes made so far. -/
  | changes (next : List LocalChange → Write β)
  /-- Changes metadata. -/
  | writeMetadata (w : MetadataWrite) (next : Except SyncError Unit → Write β)
  /-- Rolls the transaction back before the write has ended. -/
  | rollback (next : Except SyncError Unit → Write β)
  /-- Commits the transaction before the write has ended. -/
  | commit (next : Except SyncError Unit → Write β)
  /-- Another write of this device, tried within this one. -/
  | nested (inner : Write β) (next : Device.BatchOutcome β → Write β)

namespace Write

instance {β : Type} [Inhabited β] : Inhabited (Write β) := ⟨.done default none⟩

variable {π : Type} [Processor π] {β : Type}

/-- Runs a write on a device, with the changes made so far. -/
def run : Write β → List LocalChange → Device π → Device.Draft β × Device π
  | .done value failure, cs, d => (⟨value, cs, failure⟩, d)
  | .edit e next, cs, d =>
    let (r, d) := (Device.onStore e.attempt).perform d
    let made := match r with
      | .ok made => made
      | .error _ => []
    (next r).run (cs ++ made) d
  | .record? key next, cs, d =>
    let (r, d) := (Device.onStore (Store.record? key)).perform d
    (next r).run cs d
  | .find? key next, cs, d =>
    let (r, d) := (Device.onStore (Store.find? key)).perform d
    (next r).run cs d
  | .readAll next, cs, d =>
    let (r, d) := (Device.onStore Store.readAll).perform d
    (next r).run cs d
  | .changes next, cs, d => (next cs).run cs d
  | .writeMetadata w next, cs, d =>
    let (r, d) := (Device.onStore (Store.writeMetadata w)).perform d
    (next r).run cs d
  | .rollback next, cs, d =>
    let (r, d) := (Device.onStore Store.rollback).perform d
    (next r).run cs d
  | .commit next, cs, d =>
    let (r, d) := (Device.onStore Store.commit).perform d
    (next r).run cs d
  | .nested inner next, cs, d =>
    let (outcome, d) := d.batch .bridge .device (inner.run [])
    (next outcome).run cs d

end Write

namespace Device

variable {π : Type} [Processor π] {β : Type}

/-- Runs a write as one batch of this device. -/
def write (w : Write β) (d : Device π) : BatchOutcome β × Device π :=
  d.batch .bridge .device (w.run [])

/-- Runs a write as one batch of a side, outside the statistics of the bridge. -/
def separateWrite (side : Side) (w : Write β) (d : Device π) : BatchOutcome β × Device π :=
  d.batch .separate side (w.run [])

end Device

end CredentialSync
