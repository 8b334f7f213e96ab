import CredentialSync.Config.Basic
import CredentialSync.Text.Utf8

/-!
# Settings from the environment

Environment variables are laid over a configuration one by one. The first variable with a value
that cannot be used ends this; what was set before stays set. A value that is no text counts as not
set at all.
-/

namespace CredentialSync

/-- The variables of a process and their values. -/
abbrev Environment := List (String × List UInt8)

namespace Environment

/-- The value of a variable if it is a text. -/
def text? (env : Environment) (name : String) : Option String :=
  (env.lookup name).bind fun bytes => (Text.Utf8.decode bytes).toOption

end Environment

/-! ## 1. Values -/

namespace Setting

/-- Reads digits onto a number that has to fit 64 bits. -/
def wordFrom (n : Nat) : List Char → Except String UInt64
  | [] => .ok (UInt64.ofNat n)
  | c :: cs =>
    match Text.Decimal.digit? c with
    | none => .error "invalid digit found in string"
    | some d =>
      if n * 10 + d < UInt64.size then wordFrom (n * 10 + d) cs
      else .error "number too large to fit in target type"

/-- A number without a minus sign. -/
def word (s : String) : Except String UInt64 :=
  match s.toList with
  | [] => .error "cannot parse integer from empty string"
  | ['+'] => .error "invalid digit found in string"
  | '+' :: cs => wordFrom 0 cs
  | cs => wordFrom 0 cs

/-- A truth value. -/
def truth (s : String) : Except String Bool :=
  if s == "true" then .ok true
  else if s == "false" then .ok false
  else .error "provided string was not `true` or `false`"

/-- A duration. -/
def duration (s : String) : Except String Duration := (Duration.read s).mapError (·.message)

end Setting

/-! ## 2. Variables -/

/-- A variable and what its value does to a configuration. -/
structure Variable where
  name : String
  set : String → Config → Except String Config

namespace Variable

/-- The variables in the order in which they are looked at. -/
def all : List Variable := [
  ⟨"SYNCBRIDGE_BRIDGE_DEBUG_SECRET_PLACEHOLDER", fun s c =>
    .ok { c with bridge.placeholder := s }⟩,
  ⟨"SYNCBRIDGE_BRIDGE_BROADCAST_CAPACITY", fun s c =>
    (Setting.word s).map fun n => { c with bridge.broadcastCapacity := n }⟩,
  ⟨"SYNCBRIDGE_STORE_DB_PATH", fun s c => .ok { c with store.path := s }⟩,
  ⟨"SYNCBRIDGE_STORE_ENABLE_WAL", fun s c =>
    (Setting.truth s).map fun b => { c with store.writeAhead := b }⟩,
  ⟨"SYNCBRIDGE_STORE_BUSY_TIMEOUT", fun s c =>
    (Setting.duration s).map fun d => { c with store.busyTimeout := d }⟩,
  ⟨"SYNCBRIDGE_LOG_LEVEL", fun s c => .ok { c with logging.level := s }⟩,
  ⟨"SYNCBRIDGE_LOG_JSON", fun s c =>
    (Setting.truth s).map fun b => { c with logging.jsonFormat := b }⟩]

/-- Lays variables over a configuration; gives the configuration and why this ended early, if it
did. -/
def apply (env : Environment) (c : Config) : List Variable → Config × Option ConfigError
  | [] => (c, none)
  | v :: vs =>
    match env.text? v.name with
    | none => apply env c vs
    | some value =>
      match v.set value c with
      | .ok c => apply env c vs
      | .error reason => (c, some (.invalidVariable v.name value reason))

end Variable

namespace Config

/-- Lays the environment over a configuration. -/
def applyEnvironment (env : Environment) (c : Config) : Config × Option ConfigError :=
  Variable.apply env c Variable.all

/-- The configuration that the environment describes. -/
def ofEnvironment (env : Environment) : Except ConfigError Config :=
  match ({} : Config).applyEnvironment env with
  | (c, none) => c.validated
  | (_, some e) => .error e

end Config

end CredentialSync
