import CredentialSync.Credential.Change
import CredentialSync.Json.Basic
import CredentialSync.Metadata.Basic
import CredentialSync.SortedMap

/-!
# Listings

What the commands print: records as lines or as JSON, entities as JSON, and the state of
synchronisation.
-/

namespace CredentialSync

/-- An integer of 64 bits as JSON. -/
def Json.ofInt64 (n : Int64) : Json := .integer n.toInt

/-- The JSON object of a payload. -/
def Specifics.json (s : Specifics) : Json :=
  Json.ofFields [
    ("origin", .string s.origin), ("action", .string s.action),
    ("username_element", .string s.usernameElement), ("username_value", .string s.usernameValue),
    ("password_element", .string s.passwordElement), ("password_value", .string s.passwordValue),
    ("signon_realm", .string s.signonRealm), ("scheme", .integer s.scheme.toInt),
    ("preferred", .bool s.preferred), ("blacklisted", .bool s.blacklisted),
    ("times_used", .ofInt64 s.timesUsed), ("date_created", .ofInt64 s.dateCreated),
    ("display_name", .string s.displayName), ("icon_url", .string s.iconUrl)]

/-- The JSON object of an entity. -/
def Entity.json (e : Entity) : Json :=
  Json.ofFields [
    ("client_tag_hash", .string e.tagHash), ("id", .string e.id), ("name", .string e.name),
    ("specifics", e.specifics.json), ("creation_time", .ofInt64 e.creationTime),
    ("modification_time", .ofInt64 e.modificationTime)]

namespace CommandLine

/-- A text on lines of its own. -/
def printed (lines : List String) : String := String.join (lines.map (· ++ "\n"))

/-- One line per change. -/
def changeLines (cs : List LocalChange) : List String :=
  cs.map fun c => c.kind.name ++ " " ++ c.storageKey

/-- One line per record: its key, origin, username and realm. -/
def recordLines (records : SortedMap PrimaryKey Record) : List String :=
  records.toList.map fun (key, r) =>
    "  ".intercalate [PrimaryKey.storageKey key, r.origin, r.usernameValue, r.signonRealm]

/-- The records as JSON. -/
def recordsJson (records : SortedMap PrimaryKey Record) : Json :=
  .array (records.toList.map fun (key, r) =>
    .ofFields [("id", .ofInt64 key), ("origin", .string r.origin),
      ("username", .string r.usernameValue), ("realm", .string r.signonRealm)])

/-- Entities with their storage keys as JSON. -/
def entitiesJson (entities : List (StorageKey × Entity)) : Json :=
  .array (entities.map fun (key, e) => .ofFields [("storage_key", .string key), ("entity", e.json)])

/-- The lines of a client tag. -/
def tagLines (s : Specifics) : List String := ["tag:  " ++ s.tag, "hash: " ++ s.tagHash]

/-- The lines about the state of synchronisation: `loaded` is the metadata with which the bridge
started. -/
def statusLines (records : Nat) (stored loaded : MetadataBatch) : List String := [
  "records:           " ++ Text.Decimal.ofNat records,
  "tracked entities:  " ++ Text.Decimal.ofNat stored.entities.size,
  "initial sync done: " ++ (if stored.modelState.initialSyncDone then "true" else "false"),
  "loaded at start:   " ++ Text.Decimal.ofNat loaded.entities.size]

end CommandLine

end CredentialSync
