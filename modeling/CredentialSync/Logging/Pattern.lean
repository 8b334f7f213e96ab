/-!
# Patterns

The patterns that a log directive may ask the value of a field to match. Nothing in this program is
logged where such a directive would apply, so that it only matters whether a pattern is well
formed: `isPattern` says so. A number is always taken as a number.

* `.`, letters and other signs stand for characters, `\\` takes the meaning away from a sign;
* `( )` group, `|` separates choices, `[ ]` lists characters;
* `*`, `+` and `?` need something in front of them that they repeat.
-/

namespace CredentialSync.Logging.Pattern

/-- Letters that have a meaning behind a backslash. -/
def isEscapeLetter (c : Char) : Bool := ['a', 'f', 'n', 'r', 't', 'v', 'A', 'z'].contains c

/-- A digit of a number to the base sixteen. -/
def isHexDigit (c : Char) : Bool :=
  c.isDigit || ('a' ≤ c && c ≤ 'f') || ('A' ≤ c && c ≤ 'F')

/-- What stands behind an escape, if the text begins with one whose backslash has been read. -/
def escape? : List Char → Option (List Char)
  | [] => none
  | 'x' :: a :: b :: rest => if isHexDigit a && isHexDigit b then some rest else none
  | c :: rest =>
    if isEscapeLetter c || (c.toNat < 0x80 && !c.isAlphanum && c != '<' && c != '>') then some rest
    else none

/-- What stands behind a list of characters; `depth` counts the lists within each other that are
open. -/
def list? : Nat → Nat → List Char → Option (List Char)
  | 0, _, _ => none
  | _ + 1, _, [] => none
  | fuel + 1, depth, c :: rest =>
    if c == '\\' then (escape? rest).bind (list? fuel depth)
    else if c == '[' then list? fuel (depth + 1) rest
    else if c == ']' then if depth ≤ 1 then some rest else list? fuel (depth - 1) rest
    else list? fuel depth rest

/-- What stands behind the opening of a list: signs that count as characters there. -/
def listStart (cs : List Char) : List Char :=
  let cs := if cs.head? == some '^' then cs.drop 1 else cs
  let cs := cs.dropWhile (· == '-')
  if cs.head? == some ']' then cs.drop 1 else cs

/-- What stands behind the opening of a group and the marks that may follow it. -/
def groupStart? (cs : List Char) : Option (List Char) :=
  match cs with
  | '?' :: rest =>
    let flags := rest.takeWhile fun c => ['i', 'm', 's', 'U', 'x', '-'].contains c
    match rest.drop flags.length with
    | ':' :: rest => some rest
    | _ => none
  | cs => some cs

/-- Whether the rest of a pattern is well formed when `depth` groups are open; `repeatable` says
that there is something to repeat. `fuel` bounds the number of signs. -/
def isRest : Nat → Nat → Bool → List Char → Bool
  | 0, _, _, _ => false
  | _ + 1, depth, _, [] => depth == 0
  | fuel + 1, depth, repeatable, c :: rest =>
    if c == '\\' then (escape? rest).any (isRest fuel depth true)
    else if c == '(' then (groupStart? rest).any (isRest fuel (depth + 1) false)
    else if c == ')' then depth != 0 && isRest fuel (depth - 1) true rest
    else if c == '|' then isRest fuel depth false rest
    else if c == '*' || c == '+' || c == '?' then repeatable && isRest fuel depth true rest
    else if c == '[' then
      (list? fuel 1 (listStart rest)).any (isRest fuel depth true)
    else c.toNat != 0x7b && isRest fuel depth true rest

/-- Whether a text is a number with a point or an exponent, without a sign. -/
def isNumber (cs : List Char) : Bool :=
  let digits := cs.takeWhile Char.isDigit
  let rest := cs.drop digits.length
  let (fraction, rest) :=
    match rest with
    | '.' :: rest => (rest.takeWhile Char.isDigit, rest.dropWhile Char.isDigit)
    | rest => ([], rest)
  let exponent :=
    match rest with
    | [] => true
    | e :: rest =>
      let rest := if rest.head? == some '-' || rest.head? == some '+' then rest.drop 1 else rest
      (e == 'e' || e == 'E') && !rest.isEmpty && rest.all Char.isDigit
  ["inf", "infinity", "nan"].contains (String.ofList (cs.map Char.toLower))
    || (!(digits.isEmpty && fraction.isEmpty) && exponent)

/-- Whether a value may be asked for. -/
def isPattern (cs : List Char) : Bool :=
  (cs.head? == some '+' && isNumber (cs.drop 1)) || isRest (cs.length + 1) 0 false cs

end CredentialSync.Logging.Pattern
