import CredentialSync.Bridge.Merge

/-!
# Applying remote changes

Carries out a list of remote changes on the local store, in order. The first change that cannot be
carried out ends the operation with its error.

* An addition becomes a new record; the processor learns its storage key.
* An update overwrites the record under its key. If the natural key differs, the record moves: it
  is removed and added anew.
* A deletion removes the record under its key.

Updates and deletions need a storage key of a resident record; additions and updates need data.
The key is looked at first.
-/

namespace CredentialSync

/-- How many changes of each kind were applied. -/
structure ApplySummary where
  added : Nat := 0
  updated : Nat := 0
  deleted : Nat := 0
  deriving DecidableEq, Inhabited

/-- How many changes were applied. -/
def ApplySummary.total (s : ApplySummary) : Nat := s.added + s.updated + s.deleted

/-- One more change of a kind. -/
def ApplySummary.count (s : ApplySummary) : RemoteKind → ApplySummary
  | .add => { s with added := s.added + 1 }
  | .update => { s with updated := s.updated + 1 }
  | .delete => { s with deleted := s.deleted + 1 }

namespace Apply

variable {π : Type}

/-- The data of a change that needs some. -/
def requireData (c : RemoteChange) : Work π Entity :=
  match c.data with
  | some e => return e
  | none => throw (.invalidEntity
      (c.kind.name ++ " change for " ++ Text.Quoted.quote c.storageKey ++ " has no data"))

/-- The primary key of a resident record. -/
def residentKey (key : StorageKey) : Work π PrimaryKey := do
  let k ← Attempt.ofExcept (StorageKey.primaryKey key)
  match ← Work.onStore (Store.record? k) with
  | some _ => return k
  | none => throw (.notFound key)

variable [Processor π]

/-- Adds an entity as a new record and tells the processor its storage key. -/
def addEntity (e : Entity) : Work π PrimaryKey := do
  let (key?, _) ← Merge.clearRemoved (← Work.add e.record)
  match key? with
  | none => throw (.storeFailure "add reported no new record")
  | some key =>
    Work.assignKey e (PrimaryKey.storageKey key)
    return key

/-- Overwrites the record under a key, or moves it if the natural key differs. -/
def updateEntity (key : PrimaryKey) (e : Entity) : Work π Unit := do
  let cs ← Work.updateAt key e.record
  if cs.isEmpty then
    let _ ← Work.remove key
    Work.write [.clear (PrimaryKey.storageKey key)]
    let _ ← addEntity e

/-- Carries out one change. -/
def applyChange (c : RemoteChange) : Work π Unit := do
  match c.kind with
  | .add =>
    let e ← requireData c
    let _ ← addEntity e
  | .update =>
    let key ← residentKey c.storageKey
    let e ← requireData c
    updateEntity key e
  | .delete =>
    let key ← residentKey c.storageKey
    let _ ← Work.remove key
    Work.write [.clear c.storageKey]

/-- Carries out changes in order. -/
def applyChanges (s : ApplySummary) : List RemoteChange → Work π ApplySummary
  | [] => return s
  | c :: cs => do
    applyChange c
    applyChanges (s.count c.kind) cs

/-- The whole operation within its transaction. -/
def work (changes : List RemoteChange) : Work π ApplySummary := do
  let summary ← applyChanges {} changes
  Work.writePending
  Work.settle
  return summary

end Apply

end CredentialSync
