import CredentialSync.Config.Basic

/-!
# Log output

How log events are written, and that a process decides this only once: `LogOutput.install` refuses
when an output has been chosen before.
-/

namespace CredentialSync

/-- How events are chosen and written. -/
structure LogOutput where
  level : LogLevel := .info
  withTimestamp : Bool := true
  withTarget : Bool := true
  jsonFormat : Bool := false
  deriving DecidableEq, Repr

namespace LogOutput

/-- The output that settings describe. -/
def ofSettings (s : LogSettings) : Except LoggingError LogOutput :=
  (LogLevel.read s.level).map fun level =>
    { level, withTimestamp := s.withTimestamp, withTarget := s.withTarget,
      jsonFormat := s.jsonFormat }

/-- Chooses the output of a process; `chosen` is the one chosen before, if any. -/
def install (chosen : Option LogOutput) (o : LogOutput) : Except LoggingError LogOutput :=
  match chosen with
  | none => .ok o
  | some _ =>
    .error (.initializationFailed "a global default trace dispatcher has already been set")

/-- Chooses the output that settings describe. -/
def installSettings (chosen : Option LogOutput) (s : LogSettings) :
    Except LoggingError LogOutput :=
  match ofSettings s with
  | .ok o => install chosen o
  | .error e => .error e

end LogOutput

end CredentialSync
