import CredentialSync.Store.Schema
import CredentialSync.Text.Utf8

/-!
# Database files

What stands in a file, and what a connection learns when it looks into a file in which there should
be a database.

* `FileContent` is either a database that this program has kept there or bytes from elsewhere;
* `FileContent.examine` looks into it. Bytes are judged by their first page: an empty file is an
  empty database, and so is a first page that says so; any other page with the mark of a database
  is damaged, and without the mark there is no database.
-/

namespace CredentialSync

/-- What stands in a file. -/
inductive FileContent where
  | bytes (bs : List UInt8)
  /-- A database; `writeAhead` says that it notes to be used with a write-ahead log. -/
  | database (tables : Tables) (writeAhead : Bool)
  deriving DecidableEq

/-- What a look into a file shows. -/
structure DatabaseFile where
  tables : Tables := {}
  /-- Whether the file notes that changes go through a write-ahead log. -/
  writeAhead : Bool := false
  /-- Whether the file comes from a newer program that lets others read only. -/
  sealed : Bool := false
  /-- Whether the first page gives no place for a change. -/
  spoiled : Bool := false
  deriving DecidableEq

namespace FirstPage

/-- The bytes with which a database file begins. -/
def mark : List UInt8 := Text.Utf8.encode "SQLite format 3" ++ [0]

/-- The byte at a place; a file that ends before counts as continued with zeros. -/
def byte (bs : List UInt8) (i : Nat) : Nat := ((bs[i]?).getD 0).toNat

/-- The number in two bytes. -/
def pair (bs : List UInt8) (i : Nat) : Nat := byte bs i * 256 + byte bs (i + 1)

/-- The number in four bytes. -/
def quad (bs : List UInt8) (i : Nat) : Nat := pair bs i * 65536 + pair bs (i + 2)

/-- The sizes that a page can have. -/
def pageSizes : List Nat := [512, 1024, 2048, 4096, 8192, 16384, 32768, 65536]

/-- The size of a page. -/
def pageSize (bs : List UInt8) : Nat := byte bs 16 * 256 + byte bs 17 * 65536

/-- The part of a page that is used. -/
def usable (bs : List UInt8) : Nat := pageSize bs - byte bs 20

/-- Whether the file ends before the number of pages that it notes; a note that is older than the
last change does not count. -/
def isCut (bs : List UInt8) : Bool :=
  quad bs 24 == quad bs 92 && (bs.length + pageSize bs - 1) / pageSize bs < quad bs 28

/-- Whether the page is that of a database without tables. -/
def isVacant (bs : List UInt8) : Bool := byte bs 100 == 13 && pair bs 103 == 0

/-- Whether there is room for tables on the page. -/
def hasRoom (bs : List UInt8) : Bool :=
  let start := pair bs 105
  let free := (if start == 0 then 65536 else start) + byte bs 107
  pair bs 101 == 0 && 108 ≤ free && free ≤ usable bs

/-- What a first page shows to one who can use a write-ahead log or not. -/
def examine (canLog : Bool) (bs : List UInt8) : Except DatabaseFault DatabaseFile :=
  if bs.take 16 != mark then .error .notADatabase
  else if byte bs 19 > 2 then .error .notADatabase
  else if byte bs 19 == 2 && !canLog then .error .noCompanion
  else if [byte bs 21, byte bs 22, byte bs 23] != [64, 32, 32] then .error .notADatabase
  else if !pageSizes.contains (pageSize bs) then .error .notADatabase
  else if isCut bs then .error .damaged
  else if usable bs < 480 then .error .notADatabase
  else if byte bs 47 > 4 then .error .unsupportedFormat
  else if !isVacant bs then .error .damaged
  else
    .ok {
      writeAhead := byte bs 19 == 2
      sealed := byte bs 18 > 2
      spoiled := !hasRoom bs }

end FirstPage

/-- What a look into a file shows to one who can use a write-ahead log or not. A file of one byte
counts as empty. -/
def FileContent.examine (canLog : Bool) : FileContent → Except DatabaseFault DatabaseFile
  | .database tables writeAhead =>
    if writeAhead && !canLog then .error .noCompanion else .ok { tables, writeAhead }
  | .bytes bs => if bs.length ≤ 1 then .ok {} else FirstPage.examine canLog bs

end CredentialSync
