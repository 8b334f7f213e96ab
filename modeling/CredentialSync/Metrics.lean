/-!
# Metrics and statistics

* A `Metric` is a quantity that is measured while the bridge works; `Measurement`s are noted one by
  one in the order in which they arise.
* `Stats` are the counts of one bridge, in 64-bit counters that wrap around.
-/

namespace CredentialSync

/-! ## 1. Metrics -/

/-- What is measured. -/
inductive Metric where
  | batchCommitted
  | batchRolledBack
  | batchSize
  | mergeMatched
  | mergeRemoteOnly
  | mergeLocalOnly
  | mergeDuration
  | applyChanges
  | applyFailed
  | applyDuration
  | relayPut
  | relayDelete
  | relaySkipped
  deriving DecidableEq

/-- Counters are added up; of histograms every value is kept. -/
inductive MetricKind where
  | counter
  | histogram
  deriving DecidableEq

/-- The name of the kind. -/
def MetricKind.name : MetricKind → String
  | .counter => "counter"
  | .histogram => "histogram"

namespace Metric

/-- All metrics in the order in which they are described. -/
def all : List Metric := [
  .batchCommitted, .batchRolledBack, .batchSize, .mergeMatched, .mergeRemoteOnly, .mergeLocalOnly,
  .mergeDuration, .applyChanges, .applyFailed, .applyDuration, .relayPut, .relayDelete,
  .relaySkipped]

/-- The name of a metric. -/
def name : Metric → String
  | .batchCommitted => "bridge.batch.committed"
  | .batchRolledBack => "bridge.batch.rolled_back"
  | .batchSize => "bridge.batch.size"
  | .mergeMatched => "bridge.merge.matched"
  | .mergeRemoteOnly => "bridge.merge.remote_only"
  | .mergeLocalOnly => "bridge.merge.local_only"
  | .mergeDuration => "bridge.merge.duration_ms"
  | .applyChanges => "bridge.apply.changes"
  | .applyFailed => "bridge.apply.failed"
  | .applyDuration => "bridge.apply.duration_ms"
  | .relayPut => "bridge.relay.put"
  | .relayDelete => "bridge.relay.delete"
  | .relaySkipped => "bridge.relay.skipped"

/-- The kind of a metric. -/
def kind : Metric → MetricKind
  | .batchSize | .mergeDuration | .applyDuration => .histogram
  | _ => .counter

/-- Whether the metric is a duration. -/
def isDuration : Metric → Bool
  | .mergeDuration | .applyDuration => true
  | _ => false

/-- What a metric means. -/
def description : Metric → String
  | .batchCommitted => "Number of committed change batches"
  | .batchRolledBack => "Number of change batches rolled back"
  | .batchSize => "Change records per committed batch"
  | .mergeMatched => "Remote entities matched to a local record at merge"
  | .mergeRemoteOnly => "Remote entities materialised locally at merge"
  | .mergeLocalOnly => "Local records uploaded at merge"
  | .mergeDuration => "Initial merge duration in milliseconds"
  | .applyChanges => "Remote changes applied to the local store"
  | .applyFailed => "Remote change invocations that failed"
  | .applyDuration => "Incremental apply duration in milliseconds"
  | .relayPut => "Local additions and updates forwarded to the processor"
  | .relayDelete => "Local removals forwarded to the processor"
  | .relaySkipped => "Notification batches the relay did not forward"

end Metric

/-- One value of a metric. Of a duration only that it was measured is noted. -/
structure Measurement where
  metric : Metric
  value : Nat
  deriving DecidableEq

namespace Measurement

/-- The values of a metric in order. -/
def values (metric : Metric) (ms : List Measurement) : List Nat :=
  (ms.filter (·.metric == metric)).map (·.value)

/-- The sum of a counter. -/
def total (metric : Metric) (ms : List Measurement) : Nat := (values metric ms).foldl (· + ·) 0

end Measurement

/-! ## 2. Statistics -/

/-- The counts of one bridge. -/
structure Stats where
  committed : UInt64 := 0
  rolledBack : UInt64 := 0
  applied : UInt64 := 0
  relayed : UInt64 := 0
  relaySkipped : UInt64 := 0
  deriving DecidableEq, Inhabited

namespace Stats

/-- One more batch was committed. -/
def addCommitted (s : Stats) : Stats := { s with committed := s.committed + 1 }

/-- One more batch was rolled back. -/
def addRolledBack (s : Stats) : Stats := { s with rolledBack := s.rolledBack + 1 }

/-- `n` more remote changes were applied. -/
def addApplied (n : UInt64) (s : Stats) : Stats := { s with applied := s.applied + n }

/-- `n` more local changes were relayed. -/
def addRelayed (n : UInt64) (s : Stats) : Stats := { s with relayed := s.relayed + n }

/-- One more batch was not relayed. -/
def addRelaySkipped (s : Stats) : Stats := { s with relaySkipped := s.relaySkipped + 1 }

end Stats

end CredentialSync
