/-!
# Punycode

The ASCII form of a label with other characters (RFC 3492): first the ASCII characters, then, after
a hyphen, one number per other character that says how far the insertion point moves, each number
written in base 36 with thresholds that follow an adapting bias.

`encode` and `decode?` are the two directions; both work on code points. The loops are bounded by
the input: a number loses a factor at every digit, and every inserted character uses up input.
-/

namespace CredentialSync.Url.Punycode

/-! ## 1. Digits, thresholds and the bias -/

/-- The character of a digit below 36: letters first, then figures. -/
def digitChar (d : Nat) : Char := if d < 26 then Char.ofNat (97 + d) else Char.ofNat (22 + d)

/-- The value of a digit character of either case. -/
def digit? (c : Char) : Option Nat :=
  if 'a' ≤ c && c ≤ 'z' then some (c.toNat - 97)
  else if 'A' ≤ c && c ≤ 'Z' then some (c.toNat - 65)
  else if '0' ≤ c && c ≤ '9' then some (c.toNat - 22)
  else none

/-- The threshold of the digit at position `k` (36, 72, …): between 1 and 26. -/
def threshold (k bias : Nat) : Nat :=
  if k ≤ bias then 1 else if bias + 26 ≤ k then 26 else k - bias

/-- Divides `delta` by 35 until it is at most 455; counts 36 for every division. -/
def shrink (delta k : Nat) : Nat × Nat :=
  if 455 < delta then shrink (delta / 35) (k + 36) else (delta, k)
termination_by delta
decreasing_by exact Nat.div_lt_self (by omega) (by omega)

/-- The bias after a number `delta`, when `count` characters are in place. -/
def adapt (delta count : Nat) (first : Bool) : Nat :=
  let delta := if first then delta / 700 else delta / 2
  let (delta, k) := shrink (delta + delta / count) 0
  k + 36 * delta / (delta + 38)

/-! ## 2. Writing -/

/-- The digits of the number `q`; `fuel` bounds their number. -/
def digits (bias : Nat) : Nat → Nat → Nat → List Char
  | 0, _, _ => []
  | fuel + 1, k, q =>
    let t := threshold k bias
    if q < t then [digitChar q]
    else digitChar (t + (q - t) % (36 - t)) :: digits bias fuel (k + 36) ((q - t) / (36 - t))

/-- What a pass over the label for one code point carries along. -/
structure Progress where
  /-- The characters written so far, in order. -/
  out : List Char
  delta : Nat
  bias : Nat
  /-- How many characters of the label are in place. -/
  placed : Nat

/-- One character of the label during the pass for the code point `m`. -/
def Progress.scan (basic m : Nat) (p : Progress) (c : Nat) : Progress :=
  if c < m then { p with delta := p.delta + 1 }
  else if c == m then
    { out := p.out ++ digits p.bias (p.delta + 1) 36 p.delta
      delta := 0
      bias := adapt p.delta (p.placed + 1) (p.placed == basic)
      placed := p.placed + 1 }
  else p

/-- Passes over the label for each code point above ASCII, in ascending order; `n` is the next
code point that has had no pass. -/
def passes (label : List Nat) (basic : Nat) : List Nat → Nat → Progress → Progress
  | [], _, p => p
  | m :: ms, n, p =>
    let p := { p with delta := p.delta + (m - n) * (p.placed + 1) }
    let p := label.foldl (Progress.scan basic m) p
    passes label basic ms (m + 1) { p with delta := p.delta + 1 }

/-- The code points of the label above ASCII, each once, in ascending order. -/
def extended (label : List Nat) : List Nat :=
  ((label.filter (0x80 ≤ ·)).mergeSort (· ≤ ·)).eraseDups

/-- The Punycode form of a label, without the `xn--` in front. -/
def encode (label : List Nat) : List Char :=
  let basic := (label.filter (· < 0x80)).map Char.ofNat
  let start : Progress := ⟨[], 0, 72, basic.length⟩
  let tail := (passes label basic.length (extended label) 128 start).out
  if basic.isEmpty then tail else basic ++ '-' :: tail

/-! ## 3. Reading -/

/-- Reads one number: its value added to `i`, and the rest of the input. Neither the sum nor the
weight `w` of a digit that is needed may leave 32 bits. -/
def number? (bias : Nat) (i w k : Nat) : List Char → Option (Nat × List Char)
  | [] => none
  | c :: rest =>
    (digit? c).bind fun d =>
      let t := threshold k bias
      if UInt32.size ≤ i + d * w then none
      else if d < t then some (i + d * w, rest)
      else if UInt32.size ≤ w * (36 - t) then none
      else number? bias (i + d * w) (w * (36 - t)) (k + 36) rest

/-- Inserts the characters that the input names into `label`; `fuel` bounds their number. -/
def insertAll : Nat → List Nat → Nat → Nat → Nat → List Char → Option (List Nat)
  | 0, _, _, _, _, _ => none
  | _ + 1, label, _, _, _, [] => some label
  | fuel + 1, label, n, i, bias, input =>
    match number? bias i 1 36 input with
    | none => none
    | some (j, rest) =>
      let count := label.length + 1
      let n := n + j / count
      let at' := j % count
      if n.isValidChar then
        insertAll fuel (label.take at' ++ n :: label.drop at') n (at' + 1)
          (adapt (j - i) count (i == 0)) rest
      else none

/-- The part before the last hyphen and the part after it. -/
def splitLastHyphen (cs : List Char) : List Char × List Char :=
  let tail := (cs.reverse.takeWhile (· != '-')).reverse
  if tail.length < cs.length && tail.length + 1 < cs.length then
    (cs.take (cs.length - tail.length - 1), tail)
  else ([], cs)

/-- The label whose Punycode form, without the `xn--` in front, is given. -/
def decode? (cs : List Char) : Option (List Nat) :=
  let (basic, input) := splitLastHyphen cs
  if basic.all (·.toNat < 0x80) then
    insertAll (input.length + 1) (basic.map Char.toNat) 128 0 72 input
  else none

end CredentialSync.Url.Punycode
