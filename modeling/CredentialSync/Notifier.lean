import CredentialSync.Broadcast
import CredentialSync.Credential.Change

/-!
# Notification of changes

A `Notifier` tells observers and receivers about committed batches.

* Observers are called at once, in the order of their registrations; one that is registered several
  times is called as often.
* The notifier does not own its observers. When an observer is released, its registrations end;
  they are cleared away at the next notification.
* Receivers fetch the batches from a channel when they like.
-/

namespace CredentialSync

/-- Identifies an observer. -/
abbrev ObserverId := Nat

/-- Observers and receivers of committed batches. -/
structure Notifier where
  /-- Registered observers in order, released ones included until they are cleared away. -/
  registered : List ObserverId := []
  /-- Observers that have not been released. -/
  alive : List ObserverId := []
  /-- The identity of the next observer. -/
  nextId : ObserverId := 0
  channel : Broadcast ChangeBatch
  deriving DecidableEq

namespace Notifier

/-- How many batches a notifier keeps for its receivers unless it is told otherwise. -/
def defaultCapacity : Nat := 64

/-- There is no memory for the batches of a notifier that would keep more: the space for them would
not be addressable. -/
def greatestCapacity : Nat := 144115188075855872

/-- A notifier without observers. -/
def ofCapacity (capacity : Nat) : Notifier := { channel := Broadcast.ofCapacity capacity }

/-- A new observer, not yet registered. -/
def observer (n : Notifier) : ObserverId × Notifier :=
  (n.nextId, { n with alive := n.alive ++ [n.nextId], nextId := n.nextId + 1 })

/-- Registers an observer. -/
def register (n : Notifier) (o : ObserverId) : Notifier :=
  { n with registered := n.registered ++ [o] }

/-- Releases an observer. -/
def release (n : Notifier) (o : ObserverId) : Notifier :=
  { n with alive := n.alive.filter (· != o) }

/-- The registrations of observers that have not been released, in order. -/
def live (n : Notifier) : List ObserverId := n.registered.filter n.alive.contains

/-- The notifier without registrations of released observers. -/
def prune (n : Notifier) : Notifier := { n with registered := n.live }

/-- How many registrations are live. -/
def observerCount (n : Notifier) : Nat := n.live.length

/-- Tells everyone about a batch. The notifier is the `part` of a state `s` on which the observers
act by `call`; an observer registered by a call is first called for the next batch. Gives the
number of calls. -/
def notify {σ : Type} (part : σ → Notifier) (put : Notifier → σ → σ)
    (call : ObserverId → ChangeBatch → σ → σ) (batch : ChangeBatch) (s : σ) : Nat × σ :=
  let live := (part s).live
  let s := put (part s).prune s
  let s := live.foldl (fun s o => call o batch s) s
  (live.length, put { part s with channel := (part s).channel.send batch } s)

end Notifier

end CredentialSync
