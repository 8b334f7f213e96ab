import CredentialSync.Text.Utf8

/-!
# Percent escapes

A byte is escaped as `%` and two hexadecimal digits.

* `encode` escapes every non-ASCII byte of a text and the ASCII characters that the caller names;
* `decode` turns every `%` that two hexadecimal digits follow back into its byte and keeps all
  other bytes.
-/

namespace CredentialSync.Text.Percent

/-- The upper-case hexadecimal digit of a number below sixteen. -/
def hexDigit (n : Nat) : Char :=
  if n < 10 then Char.ofNat (48 + n) else Char.ofNat (55 + n)

/-- The value of a hexadecimal digit of either case. -/
def hexValue? (b : UInt8) : Option UInt8 :=
  if 48 ≤ b && b ≤ 57 then some (b - 48)
  else if 65 ≤ b && b ≤ 70 then some (b - 55)
  else if 97 ≤ b && b ≤ 102 then some (b - 87)
  else none

/-- The escape of one byte. -/
def escapeByte (b : UInt8) : List Char := ['%', hexDigit (b.toNat / 16), hexDigit (b.toNat % 16)]

/-- One byte: escaped if it is not ASCII or if `escaped` names its character. -/
def encodeByte (escaped : Char → Bool) (b : UInt8) : List Char :=
  if b < 0x80 && !escaped (Char.ofNat b.toNat) then [Char.ofNat b.toNat] else escapeByte b

/-- The characters of a text, escaped byte by byte. -/
def encode (escaped : Char → Bool) (s : String) : List Char :=
  (Utf8.encode s).flatMap (encodeByte escaped)

/-- The byte that two hexadecimal digits write. -/
def escaped? (h l : UInt8) : Option UInt8 :=
  match hexValue? h, hexValue? l with
  | some x, some y => some (x * 16 + y)
  | _, _ => none

/-- The bytes that the text of the given bytes stands for. -/
def decode : List UInt8 → List UInt8
  | a :: h :: l :: rest =>
    match (if a == 37 then escaped? h l else none) with
    | some b => b :: decode rest
    | none => a :: decode (h :: l :: rest)
  | bytes => bytes

end CredentialSync.Text.Percent
