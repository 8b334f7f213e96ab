/-!
# Durations

A `Duration` counts nanoseconds; its whole seconds fit 64 bits.

`TimeUnit` lists the units in which durations are written. Adding a number of units to a duration
(`Duration.add?`) works in seconds or in nanoseconds, whichever suits the unit, and each number on
the way has to fit 64 bits.
-/

namespace CredentialSync

/-- A length of time in nanoseconds. -/
structure Duration where
  nanos : Nat
  lt : nanos < UInt64.size * 1000000000 := by decide
  deriving DecidableEq

namespace Duration

/-- No time at all. -/
def zero : Duration := ⟨0, by decide⟩

instance : Inhabited Duration := ⟨zero⟩

/-- So many seconds. -/
def ofSeconds (n : UInt64) : Duration :=
  ⟨n.toNat * 1000000000, Nat.mul_lt_mul_of_pos_right n.toNat_lt (by decide)⟩

/-- The whole seconds. -/
def seconds (d : Duration) : Nat := d.nanos / 1000000000

/-- The nanoseconds beyond the whole seconds. -/
def subsecond (d : Duration) : Nat := d.nanos % 1000000000

/-- The whole milliseconds. -/
def millis (d : Duration) : Nat := d.nanos / 1000000

/-- So many nanoseconds, if they are not too many. -/
def ofNanos? (n : Nat) : Option Duration :=
  if h : n < UInt64.size * 1000000000 then some ⟨n, h⟩ else none

end Duration

/-! ## 1. Units -/

/-- A unit of time. -/
inductive TimeUnit where
  | nanosecond
  | microsecond
  | millisecond
  | second
  | minute
  | hour
  | day
  | week
  | month
  | year
  deriving DecidableEq, Repr

namespace TimeUnit

/-- The length of a unit in nanoseconds. A year has 365.25 days, a month 30.44. -/
def nanos : TimeUnit → Nat
  | nanosecond => 1
  | microsecond => 1000
  | millisecond => 1000000
  | second => 1000000000
  | minute => 60 * 1000000000
  | hour => 3600 * 1000000000
  | day => 86400 * 1000000000
  | week => 604800 * 1000000000
  | month => 2630016 * 1000000000
  | year => 31557600 * 1000000000

/-- The spellings of a unit. -/
def spellings : TimeUnit → List String
  | nanosecond => ["nanos", "nsec", "ns"]
  | microsecond => ["usec", "us", "µs"]
  | millisecond => ["millis", "msec", "ms"]
  | second => ["seconds", "second", "secs", "sec", "s"]
  | minute => ["minutes", "minute", "mins", "min", "m"]
  | hour => ["hours", "hour", "hrs", "hr", "h"]
  | day => ["days", "day", "d"]
  | week => ["weeks", "week", "wks", "wk", "w"]
  | month => ["months", "month", "M"]
  | year => ["years", "year", "yrs", "yr", "y"]

/-- All units. -/
def all : List TimeUnit :=
  [nanosecond, microsecond, millisecond, second, minute, hour, day, week, month, year]

/-- The unit of a spelling. -/
def ofSpelling? (s : String) : Option TimeUnit := all.find? fun u => u.spellings.contains s

/-- Whether whole numbers of a unit are counted in seconds. -/
def wholeInSeconds (u : TimeUnit) : Bool := 1000000000 ≤ u.nanos

/-- Whether fractions of a unit are counted in seconds. -/
def fractionInSeconds (u : TimeUnit) : Bool := 3600 * 1000000000 ≤ u.nanos

end TimeUnit

/-! ## 2. Sums -/

namespace Duration

/-- Accepts a number that fits 64 bits. -/
def word? (n : Nat) : Option Nat := if n < UInt64.size then some n else none

/-- A duration longer by a number of seconds or nanoseconds. -/
def extend? (inSeconds : Bool) (n : Nat) (d : Duration) : Option Duration :=
  if inSeconds then ofNanos? (d.nanos + n * 1000000000)
  else (word? (d.subsecond + n)).bind fun _ => ofNanos? (d.nanos + n)

/-- A number of units in seconds or nanoseconds, rounded nowhere. `den` divides the number. -/
def count? (inSeconds : Bool) (u : TimeUnit) (n den : Nat) : Option Nat :=
  (word? (n * if inSeconds then u.nanos / 1000000000 else u.nanos)).bind fun total =>
    if total % den == 0 then some (total / den) else none

/-- A duration longer by `n` units. -/
def addWhole? (u : TimeUnit) (n : Nat) (d : Duration) : Option Duration :=
  (count? u.wholeInSeconds u n 1).bind fun k => d.extend? u.wholeInSeconds k

/-- A duration longer by `num / den` of a unit. Nanoseconds have no parts. -/
def addFraction? (u : TimeUnit) (num den : Nat) (d : Duration) : Option Duration :=
  if u == .nanosecond then none
  else (count? u.fractionInSeconds u num den).bind fun k => d.extend? u.fractionInSeconds k

end Duration

end CredentialSync
