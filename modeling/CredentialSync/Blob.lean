import CredentialSync.Text.Utf8

/-!
# Binary records

How records are laid out as bytes: fields one after another, without names.

* Integers are little-endian with a fixed number of bytes; a truth value is one byte.
* A text and a list of bytes begin with their length as an integer of eight bytes.

`Blob` holds the writers, `Blob.Reader` the readers. A reader takes what it needs from the front of
the bytes and leaves the rest; the first fault ends it.
-/

namespace CredentialSync.Blob

/-! ## 1. Writing -/

/-- The `n` low bytes of a number, lowest first. -/
def littleEndian : Nat → Nat → List UInt8
  | 0, _ => []
  | n + 1, v => UInt8.ofNat v :: littleEndian n (v / 256)

/-- A length. -/
def ofLength (n : Nat) : List UInt8 := littleEndian 8 n

/-- An integer of 64 bits. -/
def ofInt64 (v : Int64) : List UInt8 := littleEndian 8 v.toUInt64.toNat

/-- An integer of 32 bits. -/
def ofInt32 (v : Int32) : List UInt8 := littleEndian 4 v.toUInt32.toNat

/-- A truth value. -/
def ofBool (b : Bool) : List UInt8 := [if b then 1 else 0]

/-- A list of bytes. -/
def ofBytes (bytes : List UInt8) : List UInt8 := ofLength bytes.length ++ bytes

/-- A text. -/
def ofText (s : String) : List UInt8 := ofBytes (Text.Utf8.encode s)

/-! ## 2. Reading -/

/-- Why bytes are no record. -/
inductive Fault where
  /-- The bytes end inside a number, a truth value or a list of bytes. -/
  | cutOff
  /-- The bytes end inside a text. -/
  | textCutOff
  /-- A truth value that is neither 0 nor 1. -/
  | notBool (found : UInt8)
  /-- The bytes of a text are no text. -/
  | notText (cause : Text.Utf8.Fault)
  deriving DecidableEq

/-- The wording of a fault. -/
def Fault.message : Fault → String
  | .cutOff => "io error: unexpected end of file"
  | .textCutOff => "io error: "
  | .notBool found =>
    "invalid u8 while decoding bool, expected 0 or 1, found " ++ toString found.toNat
  | .notText cause => "string is not valid utf8: " ++ cause.message

/-- Reads a value from the front of the bytes and gives the rest. -/
abbrev Reader (α : Type) := StateT (List UInt8) (Except Fault) α

namespace Reader

/-- The number that bytes write, lowest first. -/
def number : List UInt8 → Nat
  | [] => 0
  | b :: rest => b.toNat + 256 * number rest

/-- Takes `n` bytes; `fault` says what is wrong when there are fewer. -/
def take (n : Nat) (fault : Fault) : Reader (List UInt8) := fun bytes =>
  let taken := bytes.take n
  if taken.length == n then .ok (taken, bytes.drop n) else .error fault

/-- A length. -/
def length : Reader Nat := do return number (← take 8 .cutOff)

/-- An integer of 64 bits. -/
def int64 : Reader Int64 := do return (UInt64.ofNat (number (← take 8 .cutOff))).toInt64

/-- A truth value. -/
def bool : Reader Bool := do
  match ← take 1 .cutOff with
  | [0] => return false
  | [1] => return true
  | found => throw (.notBool (found.headD 0))

/-- A list of bytes. -/
def bytes : Reader (List UInt8) := do take (← length) .cutOff

/-- A text. -/
def text : Reader String := do
  match Text.Utf8.decode (← take (← length) .textCutOff) with
  | .ok s => return s
  | .error cause => throw (.notText cause)

end Reader

/-- The record at the front of the bytes; what follows it does not count. -/
def read {α : Type} (reader : Reader α) (bytes : List UInt8) : Except Fault α :=
  (reader.run bytes).map (·.1)

end CredentialSync.Blob
