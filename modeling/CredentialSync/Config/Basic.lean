import CredentialSync.Duration.Text
import CredentialSync.Logging.Level

/-!
# Configuration

What can be set: how the bridge, the store and logging behave. A `Config` may hold values that make
no sense; `Config.validate` says whether the program can work with it.
-/

namespace CredentialSync

/-! ## 1. Settings -/

/-- Settings of the bridge. -/
structure BridgeSettings where
  /-- What stands for a secret in a dump. -/
  placeholder : String := "hidden"
  /-- How many batches are kept for receivers that are behind. -/
  broadcastCapacity : UInt64 := 64
  deriving DecidableEq

/-- Settings of the store. -/
structure StoreSettings where
  /-- The file of the database. -/
  path : String := "./syncbridge.db"
  /-- Whether changes go through a log of their own before they reach the file. -/
  writeAhead : Bool := true
  /-- How long to wait for a database that someone else holds. -/
  busyTimeout : Duration := Duration.ofSeconds 5
  deriving DecidableEq

/-- Settings of logging. -/
structure LogSettings where
  level : String := "info"
  /-- Whether events are written as JSON. -/
  jsonFormat : Bool := false
  withTimestamp : Bool := true
  withTarget : Bool := true
  deriving DecidableEq

/-- All settings. -/
structure Config where
  bridge : BridgeSettings := {}
  store : StoreSettings := {}
  logging : LogSettings := {}
  deriving DecidableEq

/-! ## 2. Errors -/

/-- Why a file could not be read or written. -/
inductive FileFault where
  | missing
  | isDirectory
  /-- A path that goes through something that is no directory. -/
  | notDirectory
  | nameTooLong
  /-- A path with a character that no path can have. -/
  | unusableName
  /-- The content is no text. -/
  | notText
  deriving DecidableEq, Repr

/-- The wording of a file fault. -/
def FileFault.message : FileFault → String
  | .missing => "No such file or directory (os error 2)"
  | .isDirectory => "Is a directory (os error 21)"
  | .notDirectory => "Not a directory (os error 20)"
  | .nameTooLong => "File name too long (os error 36)"
  | .unusableName => "file name contained an unexpected NUL byte"
  | .notText => "stream did not contain valid UTF-8"

/-- Why there is no configuration. -/
inductive ConfigError where
  | unreadable (path : String) (fault : FileFault)
  | unwritable (path : String) (fault : FileFault)
  /-- A file that describes no configuration. -/
  | malformed
  /-- A configuration that no file can describe. -/
  | unrepresentable (detail : String)
  /-- An environment variable with a value that cannot be used. -/
  | invalidVariable (name : String) (value : String) (reason : String)
  /-- A configuration that makes no sense. -/
  | invalid (reason : String)
  deriving DecidableEq, Repr

/-- The wording of an error. -/
def ConfigError.message : ConfigError → String
  | .unreadable path fault =>
    "Failed to read configuration file " ++ path ++ ": " ++ fault.message
  | .unwritable path fault =>
    "Failed to write configuration file " ++ path ++ ": " ++ fault.message
  | .malformed => "Failed to parse configuration:"
  | .unrepresentable detail => "Failed to serialize configuration: " ++ detail
  | .invalidVariable name value reason =>
    "Invalid value " ++ Text.Quoted.quote value ++ " for " ++ name ++ ": " ++ reason
  | .invalid reason => "Configuration validation failed: " ++ reason

/-! ## 3. Validity -/

namespace Config

/-- Accepts a configuration that the program can work with. -/
def validate (c : Config) : Except ConfigError Unit :=
  if c.bridge.broadcastCapacity == 0 then
    .error (.invalid "broadcast_capacity must be greater than 0")
  else if c.store.path.isEmpty then .error (.invalid "db_path must not be empty")
  else
    match LogLevel.read c.logging.level with
    | .ok _ => .ok ()
    | .error e => .error (.invalid e.message)

/-- The configuration itself if it is valid. -/
def validated (c : Config) : Except ConfigError Config := c.validate.map fun _ => c

end Config

end CredentialSync
