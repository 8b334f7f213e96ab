/-!
# UTF-8 text as bytes

This file fixes how text is written as bytes and how bytes are read as text:

* `Utf8.encode` writes every character by its code point, in order;
* `Utf8.decode` reads characters until the bytes are used up, and stops at the first sequence that
  is not one: `Fault.invalid` names where it starts and how many of its bytes belonged together,
  `Fault.incomplete` says that the bytes end inside it;
* `Utf8.lenient` puts a mark in the place of each such sequence and reads on.

Overlong forms, surrogates and code points above U+10FFFF are faults of the byte where they first
show.
-/

namespace CredentialSync.Text.Utf8

/-! ## 1. Writing -/

/-- The bytes of a text. -/
def encode (s : String) : List UInt8 := s.toList.flatMap String.utf8EncodeChar

/-! ## 2. Faults -/

/-- Why bytes are not text. -/
inductive Fault where
  /-- `length` bytes from `index` on start a sequence that cannot be continued. -/
  | invalid (index length : Nat)
  /-- The bytes end inside the sequence that starts at `index`. -/
  | incomplete (index : Nat)
  deriving DecidableEq, Repr

/-- The wording of a fault. -/
def Fault.message : Fault → String
  | .invalid index length => s!"invalid utf-8 sequence of {length} bytes from index {index}"
  | .incomplete index => s!"incomplete utf-8 byte sequence from index {index}"

/-! ## 3. Reading -/

/-- A byte of the form `10xxxxxx`. -/
def isTail (b : UInt8) : Bool := 0x80 ≤ b && b ≤ 0xBF

/-- The six payload bits of a tail byte. -/
def tailBits (b : UInt8) : Nat := b.toNat % 64

/-- Which second bytes may follow the first byte of a three-byte sequence. -/
def second3 (a b : UInt8) : Bool :=
  if a == 0xE0 then 0xA0 ≤ b && b ≤ 0xBF
  else if a == 0xED then 0x80 ≤ b && b ≤ 0x9F
  else isTail b

/-- Which second bytes may follow the first byte of a four-byte sequence. -/
def second4 (a b : UInt8) : Bool :=
  if a == 0xF0 then 0x90 ≤ b && b ≤ 0xBF
  else if a == 0xF4 then 0x80 ≤ b && b ≤ 0x8F
  else isTail b

/-- Reads all bytes; `i` is the number of bytes already read. -/
def decodeFrom (i : Nat) : List UInt8 → Except Fault (List Char)
  | [] => .ok []
  | a :: rest =>
    if a < 0x80 then (decodeFrom (i + 1) rest).map (Char.ofNat a.toNat :: ·)
    else if 0xC2 ≤ a && a ≤ 0xDF then
      match rest with
      | [] => .error (.incomplete i)
      | b :: rest =>
        if isTail b then
          (decodeFrom (i + 2) rest).map (Char.ofNat (a.toNat % 32 * 64 + tailBits b) :: ·)
        else .error (.invalid i 1)
    else if 0xE0 ≤ a && a ≤ 0xEF then
      match rest with
      | [] => .error (.incomplete i)
      | b :: rest =>
        if second3 a b then
          match rest with
          | [] => .error (.incomplete i)
          | c :: rest =>
            if isTail c then
              (decodeFrom (i + 3) rest).map
                (Char.ofNat (a.toNat % 16 * 4096 + tailBits b * 64 + tailBits c) :: ·)
            else .error (.invalid i 2)
        else .error (.invalid i 1)
    else if 0xF0 ≤ a && a ≤ 0xF4 then
      match rest with
      | [] => .error (.incomplete i)
      | b :: rest =>
        if second4 a b then
          match rest with
          | [] => .error (.incomplete i)
          | c :: rest =>
            if isTail c then
              match rest with
              | [] => .error (.incomplete i)
              | d :: rest =>
                if isTail d then
                  (decodeFrom (i + 4) rest).map
                    (Char.ofNat (a.toNat % 8 * 262144 + tailBits b * 4096 + tailBits c * 64
                      + tailBits d) :: ·)
                else .error (.invalid i 3)
            else .error (.invalid i 2)
        else .error (.invalid i 1)
    else .error (.invalid i 1)

/-- The text that the bytes write, or the first fault. -/
def decode (bytes : List UInt8) : Except Fault String :=
  (decodeFrom 0 bytes).map String.ofList

/-- The character that stands for bytes that are no text. -/
def replacement : Char := Char.ofNat 0xFFFD

/-- Reads bytes with at most so many sequences that are no text. -/
def lenientFrom : Nat → List UInt8 → List Char
  | 0, _ => []
  | n + 1, bytes =>
    let readable (i : Nat) := ((decodeFrom 0 (bytes.take i)).toOption).getD []
    match decodeFrom 0 bytes with
    | .ok cs => cs
    | .error (.invalid index length) =>
      readable index ++ replacement :: lenientFrom n (bytes.drop (index + length))
    | .error (.incomplete index) => readable index ++ [replacement]

/-- The text that the bytes write, with a mark for each sequence that writes none. -/
def lenient (bytes : List UInt8) : String := String.ofList (lenientFrom (bytes.length + 1) bytes)

end CredentialSync.Text.Utf8
