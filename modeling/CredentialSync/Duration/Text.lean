import CredentialSync.Duration.Basic
import CredentialSync.Text.Blank
import CredentialSync.Text.Decimal
import CredentialSync.Text.Quoted

/-!
# Durations as text

A duration is written as a sum of numbers with their units, such as `1h 30m`.

* `read` goes through the text once, character by character; `Reading.Phase` is what it knows at a
  character. Blanks may stand between the digits of a number, and a number may have a fraction.
* `write` splits a duration into years, months, days, hours and so on, and leaves out the parts that
  are zero.
-/

namespace CredentialSync

/-- Why a text is no duration. Positions count bytes. -/
inductive DurationError where
  | empty
  | invalidCharacter (position : Nat)
  | numberExpected (position : Nat)
  /-- A number without a unit. -/
  | unitNeeded (value : Nat)
  | unknownUnit (unit : String)
  /-- A number or sum that does not fit, or that has parts below the least unit. -/
  | tooLarge
  deriving DecidableEq, Repr

/-- The wording of an error. -/
def DurationError.message : DurationError → String
  | .empty => "value was empty"
  | .invalidCharacter position => "invalid character at " ++ Text.Decimal.ofNat position
  | .numberExpected position => "expected number at " ++ Text.Decimal.ofNat position
  | .unitNeeded value =>
    let n := Text.Decimal.ofNat value
    "time unit needed, for example " ++ n ++ "sec or " ++ n ++ "ms"
  | .unknownUnit unit =>
    "unknown time unit " ++ Text.Quoted.quote unit ++ ", supported units: ns, us/µs, ms, sec, " ++
      "min, hours, days, weeks, months, years (and few variations)"
  | .tooLarge =>
    "number is too large or cannot be represented without a lack of precision " ++
      "(values below 1ns are not supported)"

namespace Duration

/-! ## 1. Reading -/

namespace Reading

/-- The place of a reader in a text. -/
inductive Phase where
  /-- Before a number. Behind the number, `since` is where the search for it began. -/
  | before (since : Nat) (first : Bool)
  /-- In the digits of a whole number. -/
  | whole (n : Nat)
  /-- In the digits of a fraction `num / den`; `mark` is the end of the last of them. -/
  | fraction (n num den mark : Nat)
  /-- In the letters of a unit, the last of them first. -/
  | unit (n : Nat) (part : Option (Nat × Nat)) (letters : List Char)

/-- What was read so far: the sum of the parts that are complete, and the place in the next. -/
structure Progress where
  sum : Duration
  phase : Phase

/-- Whether a character may stand in a unit. -/
def isUnitChar (c : Char) : Bool := c.isAlpha || c == 'µ'

/-- Adds one more digit to a number. -/
def pushDigit (n d : Nat) : Except DurationError Nat :=
  match word? (n * 10 + d) with
  | some n => .ok n
  | none => .error .tooLarge

/-- Adds a number with its unit to the sum. -/
def complete (sum : Duration) (n : Nat) (part : Option (Nat × Nat)) (letters : List Char) :
    Except DurationError Duration :=
  match TimeUnit.ofSpelling? (String.ofList letters.reverse) with
  | none => .error (.unknownUnit (String.ofList letters.reverse))
  | some u =>
    let total := (sum.addWhole? u n).bind fun sum =>
      match part with
      | none => some sum
      | some (num, den) => sum.addFraction? u num den
    match total with
    | some sum => .ok sum
    | none => .error .tooLarge

/-- Reads the character at a position. -/
def step (p : Progress) (position : Nat) (c : Char) : Except DurationError Progress :=
  let next := position + c.utf8Size
  match p.phase with
  | .before since first =>
    match Text.Decimal.digit? c with
    | some d => .ok ⟨p.sum, .whole d⟩
    | none =>
      if Text.Blank.isBlank c then .ok ⟨p.sum, .before since first⟩
      else .error (.numberExpected since)
  | .whole n =>
    match Text.Decimal.digit? c with
    | some d => (pushDigit n d).map fun n => ⟨p.sum, .whole n⟩
    | none =>
      if Text.Blank.isBlank c then .ok p
      else if isUnitChar c then .ok ⟨p.sum, .unit n none [c]⟩
      else if c == '.' then .ok ⟨p.sum, .fraction n 0 1 position⟩
      else .error (.invalidCharacter position)
  | .fraction n num den mark =>
    match Text.Decimal.digit? c with
    | some d => do
      let num ← pushDigit num d
      let den ← pushDigit den 0
      return ⟨p.sum, .fraction n num den next⟩
    | none =>
      if Text.Blank.isBlank c then .ok ⟨p.sum, .fraction n num den next⟩
      else if isUnitChar c && den != 1 then .ok ⟨p.sum, .unit n (some (num, den)) [c]⟩
      else .error (.invalidCharacter mark)
  | .unit n part letters =>
    match Text.Decimal.digit? c with
    | some d => (complete p.sum n part letters).map fun sum => ⟨sum, .whole d⟩
    | none =>
      if Text.Blank.isBlank c then
        (complete p.sum n part letters).map fun sum => ⟨sum, .before next false⟩
      else if isUnitChar c then .ok ⟨p.sum, .unit n part (c :: letters)⟩
      else .error (.invalidCharacter position)

/-- The duration at the end of a text. -/
def finish (p : Progress) : Except DurationError Duration :=
  match p.phase with
  | .before _ first => if first then .error .empty else .ok p.sum
  | .whole n => .error (.unitNeeded n)
  | .fraction n _ den mark =>
    if den == 1 then .error (.invalidCharacter mark) else .error (.unitNeeded n)
  | .unit n part letters => complete p.sum n part letters

/-- Reads the rest of a text from a position on. -/
def run (p : Progress) (position : Nat) : List Char → Except DurationError Duration
  | [] => finish p
  | c :: cs =>
    match step p position c with
    | .ok p => run p (position + c.utf8Size) cs
    | .error e => .error e

end Reading

/-- The duration that a text writes. A lone `0` needs no unit. -/
def read (s : String) : Except DurationError Duration :=
  if s == "0" then .ok zero else Reading.run ⟨zero, .before 0 true⟩ 0 s.toList

/-! ## 2. Writing -/

/-- A part of a duration, if it is not zero. -/
def part (n : Nat) (unit : String) : List String :=
  if n == 0 then [] else [Text.Decimal.ofNat n ++ unit]

/-- A part of a duration whose unit is a word; above one it is a plural. -/
def wordPart (n : Nat) (unit : String) : List String :=
  part n (if n > 1 then unit ++ "s" else unit)

/-- The parts of a duration that are not zero, from years down to nanoseconds. -/
def parts (d : Duration) : List String :=
  let inYear := d.seconds % 31557600
  let inMonth := inYear % 2630016
  let inDay := inMonth % 86400
  wordPart (d.seconds / 31557600) "year" ++ wordPart (inYear / 2630016) "month" ++
    wordPart (inMonth / 86400) "day" ++ part (inDay / 3600) "h" ++ part (inDay % 3600 / 60) "m" ++
    part (inDay % 60) "s" ++ part (d.subsecond / 1000000) "ms" ++
    part (d.subsecond / 1000 % 1000) "us" ++ part (d.subsecond % 1000) "ns"

/-- The text of a duration. -/
def write (d : Duration) : String :=
  if d.nanos == 0 then "0s" else " ".intercalate d.parts

end Duration

end CredentialSync
