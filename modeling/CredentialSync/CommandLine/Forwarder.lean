import CredentialSync.Logging.Event
import CredentialSync.Processor

/-!
# The forwarder

The change processor of the command line. It has nobody to forward changes to: it only logs and
counts them, and answers as if they were on their way.
-/

namespace CredentialSync.CommandLine

/-- The part of the program that the command line itself is. -/
def programTarget : String := "syncbridge"

/-- An event of the command line. -/
def programEvent (level : LogLevel) (message : String) (details : List (String × Detail)) : Event :=
  { level, target := programTarget, message, details }

/-- A change processor that logs what it is told. -/
structure Forwarder where
  tracking : Bool := false
  /-- How many changes were announced. -/
  forwarded : Nat := 0
  /-- The metadata with which the bridge started. -/
  loaded : Option MetadataBatch := none
  events : List Event := []

namespace Forwarder

/-- Logs an event. -/
def log (e : Event) (f : Forwarder) : Forwarder := { f with events := f.events ++ [e] }

/-- Counts a change. -/
def count (f : Forwarder) : Forwarder := { f with forwarded := f.forwarded + 1 }

instance : Processor Forwarder where
  isTracking f := f.tracking
  put key e f :=
    ([.set key { tagHash := e.tagHash, sequenceNumber := 1, creationTime := e.creationTime }],
      (f.log (programEvent .info "put"
        [("storage_key", .plain key), ("realm", .plain e.specifics.signonRealm)])).count)
  delete key f :=
    ([.clear key], (f.log (programEvent .info "delete" [("storage_key", .plain key)])).count)
  assignKey e key f := ([.set key (.ofRemote e)], f)
  ready metadata f :=
    let details := [("entities", Detail.number metadata.entities.size)]
    { f.log (programEvent .info "model ready to sync" details) with loaded := some metadata }
  report e f :=
    f.log (programEvent .warn "bridge reported an error" [("error", .plain e.message)])

end Forwarder

end CredentialSync.CommandLine
