import CredentialSync.Metadata.Basic

/-!
# Pending metadata

A `PendingMetadata` collects metadata changes until they can be written. It remembers the last
change to each cell only: to each storage key, and to the model state.

`writes` lists what is remembered, the model state first and then the storage keys in order.
-/

namespace CredentialSync

/-- The last change to one cell. -/
inductive Pending (α : Type) where
  | set (value : α)
  | clear
  deriving DecidableEq

/-- Metadata changes that wait to be written. -/
structure PendingMetadata where
  modelState : Option (Pending ModelState) := none
  entities : SortedMap StorageKey (Pending EntityMetadata) := {}
  deriving DecidableEq, Inhabited

namespace PendingMetadata

/-- Whether nothing waits. -/
def isEmpty (p : PendingMetadata) : Bool := p.modelState.isNone && p.entities.isEmpty

/-- Remembers one more change. -/
def push (p : PendingMetadata) : MetadataWrite → PendingMetadata
  | .setState state => { p with modelState := some (.set state) }
  | .clearState => { p with modelState := some .clear }
  | .set key metadata => { p with entities := p.entities.insert key (.set metadata) }
  | .clear key => { p with entities := p.entities.insert key .clear }

/-- The change to the model state. -/
def stateWrite : Pending ModelState → MetadataWrite
  | .set state => .setState state
  | .clear => .clearState

/-- The change to one storage key. -/
def entityWrite : StorageKey × Pending EntityMetadata → MetadataWrite
  | (key, .set metadata) => .set key metadata
  | (key, .clear) => .clear key

/-- What is remembered, in the order in which it is written. -/
def writes (p : PendingMetadata) : List MetadataWrite :=
  (p.modelState.map stateWrite).toList ++ p.entities.toList.map entityWrite

/-- Moves everything from `source` to `target`; the source is left empty. -/
def transfer (source target : PendingMetadata) : PendingMetadata × PendingMetadata :=
  ({}, source.writes.foldl push target)

/-- The model state that a merge ends with: the one that waits to be stored, marked as done. -/
def stateAfterMerge (p : PendingMetadata) : ModelState :=
  match p.modelState with
  | some (.set state) => state.done
  | _ => ({} : ModelState).done

end PendingMetadata

end CredentialSync
