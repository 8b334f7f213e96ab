import CredentialSync.Toml.Value

/-!
# Numbers and dates of TOML

A number or a date is a word of letters, digits and the signs `_ + - . :`. Three readers look at
such a word:

* `integer?` knows decimal integers and, behind `0x`, `0o` and `0b`, those of other bases; an
  integer has to fit 64 bits;
* `isFloat` knows numbers with a fraction or an exponent, `inf` and `nan`;
* `isDatetime` knows dates, times and both together.

A single `_` may stand between two digits of a number.
-/

namespace CredentialSync.Toml.Number

/-! ## 1. Digits -/

/-- The value of a digit of a base up to sixteen. -/
def digit? (base : Nat) (c : Char) : Option Nat :=
  let d :=
    if '0' ≤ c && c ≤ '9' then some (c.toNat - 48)
    else if 'a' ≤ c && c ≤ 'f' then some (c.toNat - 87)
    else if 'A' ≤ c && c ≤ 'F' then some (c.toNat - 55)
    else none
  d.filter (· < base)

/-- The digits of a number without its underscores; `after` says that a digit came just before. -/
def digitsFrom? (base : Nat) (after : Bool) : List Char → Option (List Nat)
  | [] => if after then some [] else none
  | c :: cs =>
    if c == '_' then if after then digitsFrom? base false cs else none
    else (digit? base c).bind fun d => (digitsFrom? base true cs).map (d :: ·)

/-- One or more digits with single underscores between them. -/
def digits? (base : Nat) (cs : List Char) : Option (List Nat) := digitsFrom? base false cs

/-- Decimal digits that do not begin with a needless zero. -/
def decimalDigits? (cs : List Char) : Option (List Nat) :=
  if cs.length > 1 && cs.head? == some '0' then none else digits? 10 cs

/-- The number that digits write. -/
def ofDigits (base : Nat) (ds : List Nat) : Nat := ds.foldl (fun n d => n * base + d) 0

/-- Whether a minus sign stands in front, and what follows the sign, if any. -/
def splitSign : List Char → Bool × List Char
  | '-' :: cs => (true, cs)
  | '+' :: cs => (false, cs)
  | cs => (false, cs)

/-! ## 2. Integers -/

/-- The integer of a word, whatever its size. -/
def unbounded? : List Char → Option Int
  | '0' :: 'x' :: cs => (digits? 16 cs).map fun ds => (ofDigits 16 ds : Int)
  | '0' :: 'o' :: cs => (digits? 8 cs).map fun ds => (ofDigits 8 ds : Int)
  | '0' :: 'b' :: cs => (digits? 2 cs).map fun ds => (ofDigits 2 ds : Int)
  | cs =>
    let (negative, cs) := splitSign cs
    (decimalDigits? cs).map fun ds =>
      if negative then -(ofDigits 10 ds : Int) else (ofDigits 10 ds : Int)

/-- The integer of a word; it has to fit 64 bits. -/
def integer? (cs : List Char) : Option Int :=
  (unbounded? cs).filter fun n => Int64.minValue.toInt ≤ n && n ≤ Int64.maxValue.toInt

/-! ## 3. Numbers with a fraction -/

/-- The exponent behind the letter `e`. -/
def exponent? (cs : List Char) : Option Int :=
  let (negative, cs) := splitSign cs
  (digits? 10 cs).map fun ds =>
    if negative then -(ofDigits 10 ds : Int) else (ofDigits 10 ds : Int)

/-- Whether `mantissa * 10 ^ exponent` is too large for a number of double precision, that is, at
least half a unit above the greatest of them. -/
def overflows (mantissa : Nat) (exponent : Int) : Bool :=
  let size := ((Nat.toDigits 10 mantissa).length : Int) + exponent
  if mantissa == 0 || size < 300 then false
  else if size > 320 then true
  else
    let limit := Nat.pow 2 1024 - Nat.pow 2 970
    if exponent < 0 then limit * Nat.pow 10 exponent.natAbs ≤ mantissa
    else limit ≤ mantissa * Nat.pow 10 exponent.natAbs

/-- The part of a number in front of its fraction or exponent, and the rest. -/
def splitWhole (cs : List Char) : List Char × List Char :=
  let isWhole (c : Char) := c == '_' || ('0' ≤ c && c ≤ '9')
  (cs.takeWhile isWhole, cs.dropWhile isWhole)

/-- Whether a character is the letter in front of an exponent. -/
def isExponentMark (c : Char) : Bool := c == 'e' || c == 'E'

/-- The digits of a fraction and the exponent behind a whole part. -/
def fraction? : List Char → Option (List Nat × Int)
  | '.' :: cs =>
    let (places, rest) := splitWhole cs
    (digits? 10 places).bind fun ds =>
      match rest with
      | [] => some (ds, 0)
      | c :: rest => if isExponentMark c then (exponent? rest).map fun e => (ds, e) else none
  | c :: cs => if isExponentMark c then (exponent? cs).map fun e => ([], e) else none
  | [] => none

/-- Whether a word is a number with a fraction or an exponent, or one of the names of such numbers.
A number above zero must not be too large. -/
def isFloat (word : List Char) : Bool :=
  let (negative, cs) := splitSign word
  if cs == ['i', 'n', 'f'] || cs == ['n', 'a', 'n'] then true
  else
    let (whole, rest) := splitWhole cs
    match decimalDigits? whole, fraction? rest with
    | some ds, some (places, exponent) =>
      negative || !overflows (ofDigits 10 (ds ++ places)) (exponent - places.length)
    | _, _ => false

/-! ## 4. Dates and times -/

/-- Takes two digits that write a number from `lo` to `hi`. -/
def twoDigits? (lo hi : Nat) : List Char → Option (Nat × List Char)
  | a :: b :: rest =>
    match digit? 10 a, digit? 10 b with
    | some x, some y =>
      let n := 10 * x + y
      if lo ≤ n && n ≤ hi then some (n, rest) else none
    | _, _ => none
  | _ => none

/-- Takes one certain character. -/
def sign? (c : Char) : List Char → Option (List Char)
  | x :: rest => if x == c then some rest else none
  | [] => none

/-- The number of days of a month. -/
def daysInMonth (year month : Nat) : Nat :=
  if month == 2 then
    if year % 4 == 0 && (year % 100 != 0 || year % 400 == 0) then 29 else 28
  else if month == 4 || month == 6 || month == 9 || month == 11 then 30
  else 31

/-- Takes a date. -/
def date? (cs : List Char) : Option (List Char) := do
  let (century, cs) ← twoDigits? 0 99 cs
  let (year, cs) ← twoDigits? 0 99 cs
  let cs ← sign? '-' cs
  let (month, cs) ← twoDigits? 1 12 cs
  let cs ← sign? '-' cs
  let (_, cs) ← twoDigits? 1 (daysInMonth (100 * century + year) month) cs
  return cs

/-- Takes a time with or without a fraction of a second. -/
def time? (cs : List Char) : Option (List Char) := do
  let (_, cs) ← twoDigits? 0 23 cs
  let cs ← sign? ':' cs
  let (_, cs) ← twoDigits? 0 59 cs
  let cs ← sign? ':' cs
  let (_, cs) ← twoDigits? 0 60 cs
  match cs with
  | '.' :: places =>
    let isDigit (c : Char) := (digit? 10 c).isSome
    if (places.takeWhile isDigit).isEmpty then none else return places.dropWhile isDigit
  | cs => return cs

/-- Takes the distance of a time from universal time. -/
def offset? : List Char → Option (List Char)
  | [] => none
  | c :: cs =>
    if c == 'Z' || c == 'z' then some cs
    else if c == '+' || c == '-' then do
      let (_, cs) ← twoDigits? 0 23 cs
      let cs ← sign? ':' cs
      let (_, cs) ← twoDigits? 0 59 cs
      return cs
    else none

/-- Whether a word is a date. -/
def isDate (cs : List Char) : Bool := date? cs == some []

/-- Whether a word is a time. -/
def isTime (cs : List Char) : Bool := time? cs == some []

/-- Whether a word is a time of day behind a date: a time with or without its distance from
universal time. -/
def isTimeOfDate (cs : List Char) : Bool :=
  match time? cs with
  | none => false
  | some [] => true
  | some rest => offset? rest == some []

/-- Whether a word is a date, a time, or a date and a time with the letter `T` between them. -/
def isDatetime (cs : List Char) : Bool :=
  isTime cs ||
    match date? cs with
    | none => false
    | some [] => true
    | some (c :: rest) => (c == 'T' || c == 't') && isTimeOfDate rest

/-! ## 5. Words -/

/-- The characters of words. -/
def isWordChar (c : Char) : Bool :=
  c.isAlphanum || c == '_' || c == '+' || c == '-' || c == '.' || c == ':'

/-- The value that a word writes. -/
def value? (word : List Char) : Option Value :=
  if word == ['t', 'r', 'u', 'e'] then some (.boolean true)
  else if word == ['f', 'a', 'l', 's', 'e'] then some (.boolean false)
  else if isDatetime word then some .datetime
  else if isFloat word then some .float
  else (integer? word).map .integer

/-- Reads a word. Between a date and a time a blank may stand. -/
def read? (cs : List Char) : Option (Value × List Char) :=
  let word := cs.takeWhile isWordChar
  let rest := cs.dropWhile isWordChar
  match rest with
  | ' ' :: behind =>
    if isDate word && isTimeOfDate (behind.takeWhile isWordChar) then
      some (.datetime, behind.dropWhile isWordChar)
    else (value? word).map (·, rest)
  | rest => (value? word).map (·, rest)

end CredentialSync.Toml.Number
