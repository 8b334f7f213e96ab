/-!
# Decimal integers

Reading of decimal text, as the different fields of the program admit it:

* `digits?` reads one or more ASCII digits;
* `signed?` reads an optional sign followed by digits.

Both give unbounded numbers; the caller says which range it accepts.
-/

namespace CredentialSync.Text.Decimal

/-- The value of an ASCII digit. -/
def digit? (c : Char) : Option Nat :=
  if '0' ≤ c && c ≤ '9' then some (c.toNat - 48) else none

/-- Reads digits onto the number `acc` read so far. -/
def readFrom (acc : Nat) : List Char → Option Nat
  | [] => some acc
  | c :: rest => (digit? c).bind fun d => readFrom (acc * 10 + d) rest

/-- The number written by one or more ASCII digits. -/
def digits? : List Char → Option Nat
  | [] => none
  | cs => readFrom 0 cs

/-- The integer written by digits with an optional sign before them. -/
def signed? : List Char → Option Int
  | '+' :: cs => (digits? cs).map Int.ofNat
  | '-' :: cs => (digits? cs).map fun n => -Int.ofNat n
  | cs => (digits? cs).map Int.ofNat

/-- The decimal digits of a number. -/
def ofNat (n : Nat) : String := String.ofList (Nat.toDigits 10 n)

/-- The decimal form of an integer, with a minus sign below zero. -/
def ofInt : Int → String
  | .ofNat n => ofNat n
  | .negSucc n => "-" ++ ofNat (n + 1)

end CredentialSync.Text.Decimal
