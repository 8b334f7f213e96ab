import CredentialSync.Error
import CredentialSync.Text.Decimal

/-!
# Primary keys and storage keys

A record has a number in its store, its **primary key**. Outside the store the record goes by a
text, its **storage key**: the primary key in decimal form.

* `PrimaryKey.storageKey` writes the text of any number;
* `StorageKey.primaryKey` reads it back, and accepts no other spelling: positive numbers of 64
  bits, digits only, no leading zero.
-/

namespace CredentialSync

/-- The number of a record in its store. -/
abbrev PrimaryKey := Int64

/-- The text by which a record is known outside its store. -/
abbrev StorageKey := String

/-- The storage key of a primary key. -/
def PrimaryKey.storageKey (k : PrimaryKey) : StorageKey := Text.Decimal.ofInt k.toInt

/-- The greatest primary key. -/
def PrimaryKey.greatest : PrimaryKey := Int64.maxValue

/-- The primary key that a text writes, if it is a storage key. -/
def StorageKey.primaryKey? (key : StorageKey) : Option PrimaryKey :=
  if key.toList.head? == some '0' then none
  else
    match Text.Decimal.digits? key.toList with
    | some n => if (n : Int) ≤ PrimaryKey.greatest.toInt then some (Int64.ofNat n) else none
    | none => none

/-- The primary key that a text writes; the error names the text. -/
def StorageKey.primaryKey (key : StorageKey) : Except SyncError PrimaryKey :=
  match StorageKey.primaryKey? key with
  | some k => .ok k
  | none => .error (.malformedKey key)

end CredentialSync
