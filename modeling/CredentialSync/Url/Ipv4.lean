import CredentialSync.Text.Decimal

/-!
# IPv4 addresses

A host whose last part is a number is an IPv4 address. Its parts are numbers in decimal, octal
(leading `0`) or hexadecimal (leading `0x`) form; the last part fills all bytes that the others
leave. `parse` reads such a host, `render` writes the four bytes.
-/

namespace CredentialSync.Url.Ipv4

/-- The value of a digit in the given base. -/
def digit? (base : Nat) (c : Char) : Option Nat :=
  let value :=
    if '0' ≤ c && c ≤ '9' then some (c.toNat - 48)
    else if 'a' ≤ c && c ≤ 'f' then some (c.toNat - 87)
    else if 'A' ≤ c && c ≤ 'F' then some (c.toNat - 55)
    else none
  value.filter (· < base)

/-- Reads digits onto `acc`. -/
def digits? (base acc : Nat) : List Char → Option Nat
  | [] => some acc
  | c :: rest => (digit? base c).bind fun d => digits? base (acc * base + d) rest

/-- The number that a part of the host writes; a bare leading `0` or `0x` counts as zero. -/
def number? : List Char → Option Nat
  | [] => none
  | '0' :: 'x' :: rest => digits? 16 0 rest
  | '0' :: 'X' :: rest => digits? 16 0 rest
  | '0' :: c :: rest => digits? 8 0 (c :: rest)
  | cs => digits? 10 0 cs

/-- The parts of a host, without an empty one at the end. -/
def parts (host : List Char) : List (List Char) :=
  let ps := host.splitOn '.'
  if ps.getLast? == some [] then ps.dropLast else ps

/-- Whether the last part of the host is a number. -/
def endsInNumber (host : List Char) : Bool :=
  match (parts host).getLast? with
  | none => false
  | some [] => false
  | some last => last.all Char.isDigit || (number? last).isSome

/-- The address that the parts' numbers write: all but the last are bytes. -/
def combine : List Nat → Option Nat
  | [] => none
  | ns =>
    let leading := ns.dropLast
    let last := ns.getLast?.getD 0
    if ns.length ≤ 4 && leading.all (· < 256) && last < Nat.pow 256 (4 - leading.length) then
      some (leading.zipIdx.foldl (fun sum (n, i) => sum + n * Nat.pow 256 (3 - i)) last)
    else none

/-- The address of a host that ends in a number. -/
def parse (host : List Char) : Option Nat := ((parts host).mapM number?).bind combine

/-- The four bytes of an address, with dots between them. -/
def render (address : Nat) : List Char :=
  List.intercalate ['.'] ([24, 16, 8, 0].map fun s => Nat.toDigits 10 ((address >>> s) % 256))

end CredentialSync.Url.Ipv4
