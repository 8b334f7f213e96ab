import CredentialSync.Blob
import CredentialSync.Store.File

/-!
# Database files

The bytes in which a database is kept between two runs of the program. A file begins with a mark and
then holds one table after another.

* `FileContent.image` writes the bytes;
* `FileContent.ofImage` reads them; bytes without the mark are left as they are.
-/

namespace CredentialSync

namespace Blob

/-- A value that may be missing. -/
def ofOption {α : Type} (f : α → List UInt8) : Option α → List UInt8
  | none => ofBool false
  | some a => ofBool true ++ f a

/-- Values one after another, with their number in front. -/
def ofList {α : Type} (f : α → List UInt8) (as : List α) : List UInt8 :=
  ofLength as.length ++ as.flatMap f

namespace Reader

/-- A value that may be missing. -/
def option {α : Type} (reader : Reader α) : Reader (Option α) := do
  if ← bool then return some (← reader) else return none

/-- As many values as a number says. -/
def times {α : Type} (reader : Reader α) : Nat → Reader (List α)
  | 0 => return []
  | n + 1 => do
    let a ← reader
    return a :: (← times reader n)

/-- Values with their number in front. -/
def list {α : Type} (reader : Reader α) : Reader (List α) := do times reader (← length)

end Reader

end Blob

namespace Row

/-- The bytes of a row under a key. -/
def image : PrimaryKey × Row → List UInt8
  | (key, row) =>
    Blob.ofInt64 key ++ Blob.ofText row.originUrl ++ Blob.ofText row.actionUrl ++
      Blob.ofText row.usernameElement ++ Blob.ofText row.usernameValue ++
      Blob.ofText row.passwordElement ++ Blob.ofText row.passwordValue ++
      Blob.ofText row.signonRealm ++ Blob.ofInt64 row.scheme ++ Blob.ofInt64 row.preferred ++
      Blob.ofInt64 row.blacklistedByUser ++ Blob.ofInt64 row.timesUsed ++
      Blob.ofInt64 row.dateCreated ++ Blob.ofText row.displayName ++ Blob.ofText row.iconUrl

/-- Reads a row and its key. -/
def ofImage : Blob.Reader (PrimaryKey × Row) := do
  let key ← Blob.Reader.int64
  let originUrl ← Blob.Reader.text
  let actionUrl ← Blob.Reader.text
  let usernameElement ← Blob.Reader.text
  let usernameValue ← Blob.Reader.text
  let passwordElement ← Blob.Reader.text
  let passwordValue ← Blob.Reader.text
  let signonRealm ← Blob.Reader.text
  let scheme ← Blob.Reader.int64
  let preferred ← Blob.Reader.int64
  let blacklistedByUser ← Blob.Reader.int64
  let timesUsed ← Blob.Reader.int64
  let dateCreated ← Blob.Reader.int64
  let displayName ← Blob.Reader.text
  let iconUrl ← Blob.Reader.text
  let row : Row :=
    { originUrl, actionUrl, usernameElement, usernameValue, passwordElement, passwordValue, signonRealm,
      scheme, preferred, blacklistedByUser, timesUsed, dateCreated, displayName, iconUrl }
  return (key, row)

end Row

namespace Tables

/-- The bytes of tables. -/
def image (t : Tables) : List UInt8 :=
  Blob.ofOption (Blob.ofList Blob.ofInt64) t.versions ++
    Blob.ofOption
      (fun records => Blob.ofInt64 records.lastKey ++ Blob.ofList Row.image records.rows.toList)
      t.records ++
    Blob.ofOption (Blob.ofList fun (key, bytes) => Blob.ofText key ++ Blob.ofBytes bytes)
      t.entityMetadata ++
    Blob.ofOption (Blob.ofOption Blob.ofBytes) t.modelState

/-- Reads the table of records. -/
def readRecords : Blob.Reader RecordTable := do
  let lastKey ← Blob.Reader.int64
  let rows ← Blob.Reader.list Row.ofImage
  return { rows := rows.foldl (fun m (key, row) => m.insert key row) {}, lastKey }

/-- Reads an entry of the table of metadata. -/
def readEntry : Blob.Reader (StorageKey × List UInt8) := do
  let key ← Blob.Reader.text
  return (key, ← Blob.Reader.bytes)

/-- Reads tables. -/
def reader : Blob.Reader Tables := do
  let versions ← Blob.Reader.option (Blob.Reader.list Blob.Reader.int64)
  let records ← Blob.Reader.option readRecords
  let entityMetadata ← Blob.Reader.option (Blob.Reader.list readEntry)
  let modelState ← Blob.Reader.option (Blob.Reader.option Blob.Reader.bytes)
  return { versions, records, entityMetadata, modelState }

end Tables

namespace FileContent

/-- The bytes with which the file of a database begins. -/
def mark : List UInt8 := 0xFF :: Text.Utf8.encode "credentials"

/-- The bytes of a file. -/
def image : FileContent → List UInt8
  | .bytes bs => bs
  | .database tables writeAhead => mark ++ Blob.ofBool writeAhead ++ tables.image

/-- Reads what stands behind the mark. -/
def reader : Blob.Reader FileContent := do
  let writeAhead ← Blob.Reader.bool
  return .database (← Tables.reader) writeAhead

/-- What the bytes of a file hold. -/
def ofImage (bytes : List UInt8) : FileContent :=
  if bytes.take mark.length == mark then
    ((Blob.read reader (bytes.drop mark.length)).toOption).getD (.bytes bytes)
  else .bytes bytes

end FileContent

end CredentialSync
