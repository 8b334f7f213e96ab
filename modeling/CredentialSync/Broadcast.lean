/-!
# Broadcast channels

A channel keeps the last values sent and hands them to any number of receivers, each at its own
pace. It has room for a power of two of values; a receiver that falls further behind learns once
how many values it lost, and goes on with the oldest one kept.

Values sent while nobody receives are dropped.
-/

namespace CredentialSync

/-- A channel for values of one type. -/
structure Broadcast (β : Type) where
  /-- How many values are kept. -/
  room : Nat
  /-- The values kept, oldest first. -/
  kept : List β := []
  /-- How many values have been sent. -/
  sent : Nat := 0
  /-- For each receiver how many values it has passed. -/
  receivers : List (String × Nat) := []
  deriving DecidableEq

/-- What a receiver gets. -/
inductive Received (β : Type) where
  | value (b : β)
  | nothing
  | lagged (lost : Nat)
  | closed
  deriving DecidableEq

namespace Broadcast

variable {β : Type}

/-- The least power of two that is at least `n`. -/
def powerOfTwo (n : Nat) : Nat := if n ≤ 1 then 1 else Nat.pow 2 (Nat.log2 (n - 1) + 1)

/-- A channel with room for `capacity` values, rounded up. -/
def ofCapacity (capacity : Nat) : Broadcast β := { room := powerOfTwo capacity }

/-- A receiver of the values sent from now on; one of the same name is replaced. -/
def subscribe (c : Broadcast β) (name : String) : Broadcast β :=
  { c with receivers := c.receivers.filter (·.1 != name) ++ [(name, c.sent)] }

/-- Removes a receiver; says whether there was one. -/
def unsubscribe (c : Broadcast β) (name : String) : Bool × Broadcast β :=
  (c.receivers.any (·.1 == name), { c with receivers := c.receivers.filter (·.1 != name) })

/-- Sends a value. -/
def send (c : Broadcast β) (b : β) : Broadcast β :=
  if c.receivers.isEmpty then c
  else
    let kept := c.kept ++ [b]
    { c with kept := kept.drop (kept.length - c.room), sent := c.sent + 1 }

/-- Moves a receiver to a position. -/
def move (c : Broadcast β) (name : String) (position : Nat) : Broadcast β :=
  { c with receivers := c.receivers.map fun r => if r.1 == name then (name, position) else r }

/-- The next value for a receiver. -/
def receive (c : Broadcast β) (name : String) : Received β × Broadcast β :=
  match c.receivers.lookup name with
  | none => (.closed, c)
  | some position =>
    let oldest := c.sent - c.kept.length
    if position < oldest then (.lagged (oldest - position), c.move name oldest)
    else
      match c.kept[position - oldest]? with
      | some b => (.value b, c.move name (position + 1))
      | none => (.nothing, c)

/-- The values that wait for a receiver. One that has fallen behind first learns of its loss, and
gets nothing before it asks again. -/
def drain (c : Broadcast β) (name : String) : List β × Broadcast β :=
  match c.receivers.lookup name with
  | none => ([], c)
  | some position =>
    let oldest := c.sent - c.kept.length
    if position < oldest then ([], c.move name oldest)
    else (c.kept.drop (position - oldest), c.move name c.sent)

end Broadcast

end CredentialSync
