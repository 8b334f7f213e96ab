/-!
# Quoted strings of TOML

A string has one of four forms (`Form`): between `"` or `'`, on one line or, with the quote written
three times, over several. Between `"` there are escapes, between `'` there are none.

* The readers (`basic`, `literal`, `multilineBasic`, `multilineLiteral`) begin behind the opening
  quotes and give the text and what stands behind the closing ones.
* `write` chooses the first form in which the text can stand without escapes, and otherwise one
  between `"`; texts with line ends go over several lines.
-/

namespace CredentialSync.Toml.Quoted

/-! ## 1. Characters -/

/-- The apostrophe. -/
def apostrophe : Char := Char.ofNat 0x27

/-- Characters that stand for themselves in a string of one line: all but control characters other
than the tab. -/
def isPlain (c : Char) : Bool := c == '\t' || (0x20 ≤ c.toNat && c.toNat != 0x7f)

/-- The value of a hexadecimal digit. -/
def hex? (c : Char) : Option Nat :=
  if '0' ≤ c && c ≤ '9' then some (c.toNat - 48)
  else if 'a' ≤ c && c ≤ 'f' then some (c.toNat - 87)
  else if 'A' ≤ c && c ≤ 'F' then some (c.toNat - 55)
  else none

/-- The character whose code point hexadecimal digits write. -/
def charOfHex? (digits : List Char) : Option Char :=
  match digits.mapM hex? with
  | none => none
  | some ds =>
    let n := ds.foldl (fun n d => n * 16 + d) 0
    if n.isValidChar then some (Char.ofNat n) else none

/-- The character of an escape of two characters. -/
def simpleEscape? (c : Char) : Option Char :=
  if c == 'b' then some '\x08'
  else if c == 't' then some '\t'
  else if c == 'n' then some '\n'
  else if c == 'f' then some '\x0c'
  else if c == 'r' then some '\r'
  else if c == '"' then some '"'
  else if c == '\\' then some '\\'
  else none

/-- A text with one more character in front, and the rest behind it. -/
def prepend (c : Char) : List Char × List Char → List Char × List Char
  | (text, rest) => (c :: text, rest)

/-! ## 2. Reading one line -/

/-- Reads a string between `"` up to its end. -/
def basic : List Char → Option (List Char × List Char)
  | [] => none
  | '"' :: rest => some ([], rest)
  | '\\' :: 'u' :: a :: b :: c :: d :: rest =>
    (charOfHex? [a, b, c, d]).bind fun x => (basic rest).map (prepend x)
  | '\\' :: 'U' :: a :: b :: c :: d :: e :: f :: g :: h :: rest =>
    (charOfHex? [a, b, c, d, e, f, g, h]).bind fun x => (basic rest).map (prepend x)
  | '\\' :: c :: rest => (simpleEscape? c).bind fun x => (basic rest).map (prepend x)
  | c :: rest => if isPlain c && c != '\\' then (basic rest).map (prepend c) else none

/-- Reads a string between `'` up to its end. -/
def literal : List Char → Option (List Char × List Char)
  | [] => none
  | c :: rest =>
    if c == apostrophe then some ([], rest)
    else if isPlain c then (literal rest).map (prepend c)
    else none

/-! ## 3. Reading several lines -/

/-- A line end directly behind the opening quotes does not count. -/
def skipLineEnd : List Char → List Char
  | '\n' :: rest => rest
  | '\r' :: '\n' :: rest => rest
  | cs => cs

/-- What the reader of a string over several lines is doing. -/
inductive Mode where
  | text
  /-- A backslash and blanks came before; a line end has to follow. -/
  | lineEnd
  /-- Blanks and line ends behind such a line end do not count. -/
  | skipping
  deriving DecidableEq

/-- Reads a string between `"""` up to its end. Up to two quotes may stand before the closing
ones. -/
def multilineBasic : Mode → List Char → Option (List Char × List Char)
  | _, [] => none
  | .text, '\r' :: '\n' :: rest => (multilineBasic .text rest).map (prepend '\n')
  | _, '\r' :: '\n' :: rest => multilineBasic .skipping rest
  | .lineEnd, c :: rest =>
    if c == '\n' then multilineBasic .skipping rest
    else if c == ' ' || c == '\t' then multilineBasic .lineEnd rest
    else none
  | _, '"' :: '"' :: '"' :: '"' :: '"' :: rest => some (['"', '"'], rest)
  | _, '"' :: '"' :: '"' :: '"' :: rest => some (['"'], rest)
  | _, '"' :: '"' :: '"' :: rest => some ([], rest)
  | _, '\\' :: 'u' :: a :: b :: c :: d :: rest =>
    (charOfHex? [a, b, c, d]).bind fun x => (multilineBasic .text rest).map (prepend x)
  | _, '\\' :: 'U' :: a :: b :: c :: d :: e :: f :: g :: h :: rest =>
    (charOfHex? [a, b, c, d, e, f, g, h]).bind fun x => (multilineBasic .text rest).map (prepend x)
  | _, '\\' :: x :: rest =>
    if x == '\n' then multilineBasic .skipping rest
    else if x == ' ' || x == '\t' || x == '\r' then multilineBasic .lineEnd (x :: rest)
    else (simpleEscape? x).bind fun x => (multilineBasic .text rest).map (prepend x)
  | mode, c :: rest =>
    if mode == .skipping && (c == ' ' || c == '\t' || c == '\n') then multilineBasic .skipping rest
    else if (isPlain c && c != '\\') || c == '\n' then (multilineBasic .text rest).map (prepend c)
    else none

/-- Reads a string between `'''` up to its end. Up to two quotes may stand before the closing
ones. -/
def multilineLiteral : List Char → Option (List Char × List Char)
  | [] => none
  | '\r' :: '\n' :: rest => (multilineLiteral rest).map (prepend '\n')
  | c :: rest =>
    if c == apostrophe && rest.take 4 == List.replicate 4 apostrophe then
      some ([apostrophe, apostrophe], rest.drop 4)
    else if c == apostrophe && rest.take 3 == List.replicate 3 apostrophe then
      some ([apostrophe], rest.drop 3)
    else if c == apostrophe && rest.take 2 == List.replicate 2 apostrophe then
      some ([], rest.drop 2)
    else if isPlain c || c == '\n' then (multilineLiteral rest).map (prepend c)
    else none

/-- Reads a string with its quotes. -/
def read? : List Char → Option (List Char × List Char)
  | '"' :: '"' :: '"' :: rest => multilineBasic .text (skipLineEnd rest)
  | '"' :: rest => basic rest
  | a :: rest =>
    if a != apostrophe then none
    else if rest.take 2 == [apostrophe, apostrophe] then
      multilineLiteral (skipLineEnd (rest.drop 2))
    else literal rest
  | [] => none

/-! ## 4. Writing -/

/-- The greatest number of times that a character stands in a row. -/
def longestRun (c : Char) (cs : List Char) : Nat :=
  (cs.foldl (fun (best, run) x => if x == c then (max best (run + 1), run + 1) else (best, 0))
    (0, 0)).1

/-- An upper-case hexadecimal digit. -/
def hexDigit (n : Nat) : Char := if n < 10 then Char.ofNat (48 + n) else Char.ofNat (55 + n)

/-- The escape of a character that cannot stand for itself, if it has one. -/
def escape? (c : Char) : Option (List Char) :=
  if c == '\x08' then some ['\\', 'b']
  else if c == '\t' then some ['\\', 't']
  else if c == '\n' then some ['\\', 'n']
  else if c == '\x0c' then some ['\\', 'f']
  else if c == '\r' then some ['\\', 'r']
  else if c == '\\' then some ['\\', '\\']
  else if c.toNat < 0x20 || c.toNat == 0x7f then
    some ['\\', 'u', '0', '0', hexDigit (c.toNat / 16), hexDigit (c.toNat % 16)]
  else none

/-- The text of a string on one line, with escapes. -/
def escaped : List Char → List Char
  | [] => []
  | c :: cs => (if c == '"' then ['\\', '"'] else (escape? c).getD [c]) ++ escaped cs

/-- The text of a string over several lines, with escapes; `quotes` counts the quotes just before.
Every third quote in a row is escaped. -/
def escapedLines (quotes : Nat) : List Char → List Char
  | [] => []
  | c :: cs =>
    if c == '"' then
      if quotes == 2 then '\\' :: '"' :: escapedLines 0 cs
      else '"' :: escapedLines (quotes + 1) cs
    else if c == '\n' then '\n' :: escapedLines 0 cs
    else (escape? c).getD [c] ++ escapedLines 0 cs

/-- The forms of a string. -/
inductive Form where
  | basic
  | literal
  | multilineBasic
  | multilineLiteral
  deriving DecidableEq

/-- The form in which a text is written: the first in which it needs no escapes except for tabs,
and otherwise the one between `"` that has room for its line ends. -/
def formOf (cs : List Char) : Form :=
  let lines := cs.contains '\n'
  let plain := cs.all fun c => isPlain c || c == '\n'
  let slash := cs.contains '\\'
  let quotes := longestRun '"' cs
  let apostrophes := longestRun apostrophe cs
  if plain && !lines && !slash && quotes == 0 then .basic
  else if plain && !lines && apostrophes == 0 then .literal
  else if plain && !slash && quotes ≤ 2 then .multilineBasic
  else if plain && apostrophes ≤ 2 then .multilineLiteral
  else if lines then .multilineBasic
  else .basic

/-- A text with its quotes. -/
def write (cs : List Char) : List Char :=
  let start := if cs.contains '\n' then ['\n'] else []
  let quotes := ['"', '"', '"']
  let apostrophes := [apostrophe, apostrophe, apostrophe]
  match formOf cs with
  | .basic => '"' :: escaped cs ++ ['"']
  | .literal => apostrophe :: cs ++ [apostrophe]
  | .multilineBasic => quotes ++ start ++ escapedLines 0 cs ++ quotes
  | .multilineLiteral => apostrophes ++ start ++ cs ++ apostrophes

end CredentialSync.Toml.Quoted
