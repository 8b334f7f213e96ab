import CredentialSync.Config.Basic
import CredentialSync.Text.Utf8
import CredentialSync.Toml.Reader
import CredentialSync.Toml.Writer

/-!
# Configuration files

A configuration file is a TOML document with the three tables `bridge`, `store` and `logging`.

* `Config.ofText` reads such a document. Every setting has to be there and to have its type; a
  table may also be given as the list of its values. What else stands in the document does not
  count.
* `Config.toText` writes one.

`Config.ofFile` and `Config.toFile` are the ways to and from a file, given what the machine has to say
about the file.
-/

namespace CredentialSync.Config

/-! ## 1. Reading -/

/-- The values of the settings of a table in order. -/
def values (names : List String) : Toml.Value → Option (List Toml.Value)
  | .table entries => names.mapM fun name => entries.lookup name
  | .array vs => if names.length ≤ vs.length then some (vs.take names.length) else none
  | _ => none

/-- Reads the settings of the bridge. -/
def bridgeOf? (v : Toml.Value) : Option BridgeSettings :=
  match values ["debug_secret_placeholder", "broadcast_capacity"] v with
  | some [.string placeholder, .integer capacity] =>
    if capacity < 0 then none
    else some { placeholder, broadcastCapacity := UInt64.ofNat capacity.toNat }
  | _ => none

/-- Reads the settings of the store. -/
def storeOf? (v : Toml.Value) : Option StoreSettings :=
  match values ["db_path", "enable_wal", "busy_timeout"] v with
  | some [.string path, .boolean writeAhead, .string timeout] =>
    (Duration.read timeout).toOption.map fun busyTimeout => { path, writeAhead, busyTimeout }
  | _ => none

/-- Reads the settings of logging. -/
def loggingOf? (v : Toml.Value) : Option LogSettings :=
  match values ["level", "json_format", "with_timestamp", "with_target"] v with
  | some [.string level, .boolean jsonFormat, .boolean withTimestamp, .boolean withTarget] =>
    some { level, jsonFormat, withTimestamp, withTarget }
  | _ => none

/-- Reads a configuration from the table of a document. -/
def ofTable? (entries : List (String × Toml.Value)) : Option Config := do
  let bridge ← bridgeOf? (← entries.lookup "bridge")
  let store ← storeOf? (← entries.lookup "store")
  let logging ← loggingOf? (← entries.lookup "logging")
  return { bridge, store, logging }

/-- The configuration that a text describes. -/
def ofText (text : String) : Except ConfigError Config :=
  match (Toml.read? text).bind ofTable? with
  | none => .error .malformed
  | some c => c.validated

/-- The configuration in a file, given what reading the file brought. -/
def ofFile (path : String) : Except FileFault (List UInt8) → Except ConfigError Config
  | .error fault => .error (.unreadable path fault)
  | .ok bytes =>
    match Text.Utf8.decode bytes with
    | .error _ => .error (.unreadable path .notText)
    | .ok text => ofText text

/-! ## 2. Writing -/

/-- The tables of the document for a configuration. -/
def sections (c : Config) : List Toml.Section := [
  ⟨"bridge", [("debug_secret_placeholder", .string c.bridge.placeholder),
    ("broadcast_capacity", .integer c.bridge.broadcastCapacity.toNat)]⟩,
  ⟨"store", [("db_path", .string c.store.path), ("enable_wal", .boolean c.store.writeAhead),
    ("busy_timeout", .string c.store.busyTimeout.write)]⟩,
  ⟨"logging", [("level", .string c.logging.level), ("json_format", .boolean c.logging.jsonFormat),
    ("with_timestamp", .boolean c.logging.withTimestamp),
    ("with_target", .boolean c.logging.withTarget)]⟩]

/-- The text of a configuration. Integers of a document have a sign, so that half of all capacities
cannot be written. -/
def toText (c : Config) : Except ConfigError String :=
  if (c.bridge.broadcastCapacity.toNat : Int) ≤ Int64.maxValue.toInt then
    .ok (Toml.write c.sections)
  else .error (.unrepresentable "out-of-range value for u64 type")

/-- The content of the file for a configuration, given whether the file can be written to. The text is
made first, and nothing is written if there is none. -/
def toFile (path : String) (place : Except FileFault Unit) (c : Config) :
    Except ConfigError (List UInt8) :=
  c.toText.bind fun text =>
    match place with
    | .error fault => .error (.unwritable path fault)
    | .ok _ => .ok (Text.Utf8.encode text)

end CredentialSync.Config
