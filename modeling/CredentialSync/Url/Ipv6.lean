import CredentialSync.Text.Decimal

/-!
# IPv6 addresses

An address is eight groups of sixteen bits. In text the groups are hexadecimal and separated by
colons; one run of zero groups may be left out (`::`), and the last two groups may stand as an
IPv4 address.

* `parse` reads the groups into the list before and the list after the gap (`Groups`);
* `render` leaves out the longest run of at least two zero groups, the first one of several.
-/

namespace CredentialSync.Url.Ipv6

/-! ## 1. Reading -/

/-- The groups read so far. -/
structure Groups where
  /-- Groups before the gap, or all of them. -/
  before : List Nat := []
  /-- Groups after the gap, if there is one. -/
  after : Option (List Nat) := none

/-- How many of the eight places are taken; a gap takes at least one. -/
def Groups.size (g : Groups) : Nat :=
  g.before.length + (match g.after with | none => 0 | some a => a.length + 1)

/-- Appends one group. -/
def Groups.push (g : Groups) (n : Nat) : Groups :=
  match g.after with
  | none => { g with before := g.before ++ [n] }
  | some a => { g with after := some (a ++ [n]) }

/-- The eight groups, the gap filled with zeros. -/
def Groups.fill (g : Groups) : Option (List Nat) :=
  match g.after with
  | none => if g.before.length == 8 then some g.before else none
  | some a =>
    if g.before.length + a.length ≤ 7 then
      some (g.before ++ List.replicate (8 - g.before.length - a.length) 0 ++ a)
    else none

/-- The value of a hexadecimal digit. -/
def hex? (c : Char) : Option Nat :=
  if '0' ≤ c && c ≤ '9' then some (c.toNat - 48)
  else if 'a' ≤ c && c ≤ 'f' then some (c.toNat - 87)
  else if 'A' ≤ c && c ≤ 'F' then some (c.toNat - 55)
  else none

/-- The number of at most four hexadecimal digits. -/
def hexNumber (cs : List Char) : Nat := cs.foldl (fun n c => n * 16 + (hex? c).getD 0) 0

/-- A byte in decimal form without leading zero. -/
def byte? (cs : List Char) : Option Nat :=
  if cs.head? == some '0' && cs.length != 1 then none
  else (Text.Decimal.digits? cs).filter (· < 256)

/-- The two groups that an IPv4 address at the end writes. -/
def dotted? (cs : List Char) : Option (Nat × Nat) :=
  match (cs.splitOn '.').mapM byte? with
  | some [a, b, c, d] => some (a * 256 + b, c * 256 + d)
  | _ => none

/-- Reads groups up to the end of the text; `fuel` bounds their number. -/
def groups? : Nat → Groups → List Char → Option Groups
  | 0, _, _ => none
  | _ + 1, g, [] => some g
  | fuel + 1, g, c :: cs =>
    if g.size ≥ 8 then none
    else if c == ':' then
      match g.after with
      | some _ => none
      | none => groups? fuel { g with after := some [] } cs
    else
      let digits := ((c :: cs).take 4).takeWhile fun c => (hex? c).isSome
      match (c :: cs).drop digits.length with
      | [] => some (g.push (hexNumber digits))
      | '.' :: _ =>
        if digits.isEmpty || g.size > 6 then none
        else (dotted? (c :: cs)).map fun (m, n) => (g.push m).push n
      | ':' :: rest =>
        if rest.isEmpty then none else groups? fuel (g.push (hexNumber digits)) rest
      | _ => none

/-- The eight groups of an address without its brackets. -/
def parse : List Char → Option (List Nat)
  | ':' :: ':' :: rest => (groups? (rest.length + 1) ⟨[], some []⟩ rest).bind Groups.fill
  | ':' :: _ => none
  | [_] => none
  | [] => none
  | cs => (groups? (cs.length + 1) {} cs).bind Groups.fill

/-! ## 2. Writing -/

/-- Length of the run of zeros at the front. -/
def zeros (gs : List Nat) : Nat := (gs.takeWhile (· == 0)).length

/-- Where the longest run of zeros starts and how long it is; the first of several. -/
def longestRun (gs : List Nat) : Nat × Nat :=
  (List.range gs.length).foldl
    (fun best i => if best.2 < zeros (gs.drop i) then (i, zeros (gs.drop i)) else best) (0, 0)

/-- Groups in hexadecimal form with colons between them. -/
def joined (gs : List Nat) : List Char :=
  List.intercalate [':'] (gs.map (Nat.toDigits 16))

/-- The shortest text of an address. -/
def render (gs : List Nat) : List Char :=
  let (start, length) := longestRun gs
  if length < 2 then joined gs
  else joined (gs.take start) ++ [':', ':'] ++ joined (gs.drop (start + length))

end CredentialSync.Url.Ipv6
