import CredentialSync.Config.Basic
import CredentialSync.Error

/-!
# Failures of a process

Why a process could not do what it was asked to: a message, and the causes behind it, each the
cause of the one before. `Failure.report` is the text for the user.
-/

namespace CredentialSync.CommandLine

/-- Why a process gave up. -/
structure Failure where
  message : String
  causes : List String := []
  deriving DecidableEq

namespace Failure

/-- What lies behind a configuration error. -/
def causesOf : ConfigError → List String
  | .unreadable _ fault => [fault.message]
  | .unwritable _ fault => [fault.message]
  | .malformed => ["TOML parse error"]
  | _ => []

/-- The failure of a configuration. -/
def ofConfig (e : ConfigError) : Failure := ⟨e.message, causesOf e⟩

/-- The failure of a store. -/
def ofSync (e : SyncError) : Failure := ⟨e.message, []⟩

/-- A failure within some undertaking. -/
def within (undertaking : String) (f : Failure) : Failure := ⟨undertaking, f.message :: f.causes⟩

/-- A text whose further lines begin with some blanks. -/
def indent (blanks : Nat) (s : String) : String :=
  String.ofList (s.toList.flatMap fun c =>
    if c == '\n' then '\n' :: List.replicate blanks ' ' else [c])

/-- The lines of causes with their numbers. -/
def numbered (n : Nat) : List String → List String
  | [] => []
  | cause :: rest =>
    ("    " ++ Text.Decimal.ofNat n ++ ": " ++ indent 7 cause) :: numbered (n + 1) rest

/-- The text of a failure. A single cause has no number. -/
def report (f : Failure) : String :=
  let lines := match f.causes with
    | [] => []
    | [cause] => ["", "Caused by:", "    " ++ indent 4 cause]
    | causes => ["", "Caused by:"] ++ numbered 0 causes
  "\n".intercalate (("Error: " ++ f.message) :: lines)

end Failure

end CredentialSync.CommandLine
