import CredentialSync.Error

/-!
# Attempts

An `Attempt σ α` works on a state `σ` and either gives an `α` or fails. What it did to the state
before it failed stays done; who wants it undone has to undo it.
-/

namespace CredentialSync

/-- Works on a state and may fail; the state at the failure is kept. -/
abbrev Attempt (σ α : Type) := ExceptT SyncError (StateM σ) α

namespace Attempt

variable {σ τ α : Type}

/-- The outcome of an attempt and the state it leaves. -/
def perform (a : Attempt σ α) (s : σ) : Except SyncError α × σ := a s

/-- An attempt given by its outcome and state. -/
def ofFunction (f : σ → Except SyncError α × σ) : Attempt σ α := f

/-- An attempt that leaves the state alone. -/
def ofExcept : Except SyncError α → Attempt σ α
  | .ok a => pure a
  | .error e => throw e

/-- An attempt on a part of the state. -/
def within (part : σ → τ) (put : τ → σ → σ) (a : Attempt τ α) : Attempt σ α :=
  ofFunction fun s =>
    let (outcome, t) := a.perform (part s)
    (outcome, put t s)

end Attempt

end CredentialSync
