import CredentialSync.Bridge.Scope

/-!
# The initial merge

Reconciles the records of this device with all entities of the remote side when sync is switched
on. Each remote entity meets the local records with the same client tag:

* one with the same natural key takes over the remote data in place;
* otherwise one that no entity has matched yet is replaced by a new record with the remote data;
* otherwise the remote data becomes a new record.

Local records that no remote entity met are announced to the processor. At the end the collected
metadata is written and the model state is marked as done.

The records are found through an index from client tags to primary keys. Keys that were replaced
stay in the index and are skipped (`Merging.candidates`).
-/

namespace CredentialSync

/-- What a merge did. -/
structure MergeSummary where
  /-- Remote entities that met a local record. -/
  matched : Nat := 0
  /-- Remote entities that became new records. -/
  remoteOnly : Nat := 0
  /-- Local records that no remote entity met. -/
  localOnly : Nat := 0
  deriving DecidableEq, Inhabited

/-- The bookkeeping of a merge. -/
structure Merging where
  /-- The primary keys for each client tag, in the order in which they were met. -/
  index : SortedMap String (List PrimaryKey) := {}
  /-- Keys that took over remote data in place. -/
  matched : List PrimaryKey := []
  /-- Keys whose records were replaced. -/
  replaced : List PrimaryKey := []
  summary : MergeSummary := {}

namespace Merging

/-- Adds a key to the index. -/
def note (m : Merging) (tag : String) (key : PrimaryKey) : Merging :=
  { m with index := m.index.insert tag ((m.index.get? tag).getD [] ++ [key]) }

/-- The bookkeeping at the start: the index of all local records. -/
def ofRecords (records : SortedMap PrimaryKey Record) : Merging :=
  records.toList.foldl (fun m (key, r) => m.note r.specifics.tag key) {}

/-- The keys of the records with a client tag. -/
def candidates (m : Merging) (tag : String) : List PrimaryKey :=
  ((m.index.get? tag).getD []).filter fun key => !m.replaced.contains key

/-- The first of some keys that has taken over no remote data. -/
def unmatched? (m : Merging) (keys : List PrimaryKey) : Option PrimaryKey :=
  keys.find? fun key => !m.matched.contains key

/-- Whether a local record was met by a remote entity. -/
def isSettled (m : Merging) (key : PrimaryKey) : Bool :=
  m.matched.contains key || m.replaced.contains key

end Merging

namespace Merge

variable {π : Type}

/-- Overwrites the first record, of those under the given keys, that has the same natural key. -/
def overwriteFirst (r : Record) : List PrimaryKey → Work π (Option PrimaryKey)
  | [] => return none
  | key :: keys => do
    let cs ← Work.updateAt key r
    if cs.isEmpty then overwriteFirst r keys else return some key

/-- The metadata of records that an addition removed is cleared. Gives the key of the added record
and those of the removed ones. -/
def clearRemoved : List LocalChange → Work π (Option PrimaryKey × List PrimaryKey)
  | [] => return (none, [])
  | c :: cs =>
    match c.kind with
    | .add => do
      let (key, removed) ← clearRemoved cs
      return (key <|> some c.key, removed)
    | _ => do
      Work.write [.clear c.storageKey]
      let (key, removed) ← clearRemoved cs
      return (key, c.key :: removed)

variable [Processor π]

/-- Adds a remote entity as a new record and tells the processor its storage key. Gives the new
key and the keys of records that the addition removed. -/
def materialize (e : Entity) : Work π (PrimaryKey × List PrimaryKey) := do
  let (key?, removed) ← clearRemoved (← Work.add e.record)
  match key? with
  | none => throw (.storeFailure "add reported no new record")
  | some key =>
    Work.write [.set (PrimaryKey.storageKey key) (.ofRemote e)]
    Work.assignKey e (PrimaryKey.storageKey key)
    return (key, removed)

/-- Merges one remote entity. -/
def mergeEntity (m : Merging) (e : Entity) : Work π Merging := do
  let tag := e.specifics.tag
  let candidates := m.candidates tag
  match ← overwriteFirst e.record candidates with
  | some key =>
    Work.write [.set (PrimaryKey.storageKey key) (.ofRemote e)]
    return { m with
      matched := key :: m.matched
      summary := { m.summary with matched := m.summary.matched + 1 } }
  | none =>
    match m.unmatched? candidates with
    | some old =>
      let _ ← Work.remove old
      Work.write [.clear (PrimaryKey.storageKey old)]
      let (key, removed) ← materialize e
      return { m with
        replaced := removed ++ old :: m.replaced
        summary := { m.summary with matched := m.summary.matched + 1 } }.note tag key
    | none =>
      let (key, removed) ← materialize e
      return { m with
        replaced := removed ++ m.replaced
        summary := { m.summary with remoteOnly := m.summary.remoteOnly + 1 } }.note tag key

/-- Merges all remote entities in order. -/
def mergeEntities (m : Merging) : List RemoteChange → Work π Merging
  | [] => return m
  | c :: cs =>
    match c.data with
    | none => throw (.invalidEntity "remote entity without data")
    | some e => do mergeEntities (← mergeEntity m e) cs

/-- Announces the records that no remote entity met; gives their number. -/
def announce (m : Merging) : List (PrimaryKey × Record) → Work π Nat
  | [] => return 0
  | (key, r) :: rest =>
    if m.isSettled key then announce m rest
    else do
      Work.put (PrimaryKey.storageKey key) (Entity.ofRecord r)
      return (← announce m rest) + 1

/-- The whole merge within its transaction. -/
def work (changes : List RemoteChange) : Work π MergeSummary := do
  let records ← Work.onStore Store.readAll
  let m ← mergeEntities (.ofRecords records) changes
  let localOnly ← announce m records.toList
  let state := (← get).pending.stateAfterMerge
  Work.writePending
  Work.write [.setState state]
  Work.settle
  return { m.summary with localOnly }

end Merge

end CredentialSync
