import CredentialSync.Text.Quoted

/-!
# Errors of synchronisation

`SyncError` says what kind of failure an operation met. Which text describes the failure inside its
kind is decided where it arises; `SyncError.message` is the full wording.

One kind is never returned: `SyncError.overflow` stands where the program has no result that could be
relied on, because a counter has run over.
-/

namespace CredentialSync

/-- Why an operation of the bridge, a store or a metadata store failed. -/
inductive SyncError where
  /-- A storage key that no record can have. -/
  | malformedKey (raw : String)
  /-- A storage key under which no record lives. -/
  | notFound (key : String)
  /-- The record store could not do its work. -/
  | storeFailure (detail : String)
  /-- Sync metadata could not be read or written. -/
  | metadataFailure (detail : String)
  /-- An entity from the remote side that cannot be used. -/
  | invalidEntity (detail : String)
  /-- A counter has run over. A program that checks its sums stops there, any other one counts on from
  the least number. -/
  | overflow
  deriving DecidableEq, Repr

/-- The wording of an error. -/
def SyncError.message : SyncError → String
  | .malformedKey raw => "Malformed storage key: " ++ Text.Quoted.quote raw
  | .notFound key => "Not found: " ++ key
  | .storeFailure detail => "Store failure: " ++ detail
  | .metadataFailure detail => "Metadata persist failure: " ++ detail
  | .invalidEntity detail => "Invalid entity: " ++ detail
  | .overflow => "attempt to add with overflow"

end CredentialSync
