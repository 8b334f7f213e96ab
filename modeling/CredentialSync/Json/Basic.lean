import CredentialSync.Text.Decimal

/-!
# JSON

A `Json` value and its text. `pretty` goes over several lines, two blanks deeper for each level;
`compact` stays on one line.

In a text, `"`, `\` and control characters are escaped; all else stands for itself.
-/

namespace CredentialSync

/-- A JSON value; of numbers only integers. -/
inductive Json where
  | null
  | bool (b : Bool)
  | integer (n : Int)
  | string (s : String)
  | array (elements : List Json)
  | object (fields : List (String × Json))
  deriving Inhabited

namespace Json

/-- An object whose fields stand in the order of their names. -/
def ofFields (fields : List (String × Json)) : Json :=
  .object (fields.mergeSort fun x y => x.1 ≤ y.1)

/-! ## 1. Texts -/

/-- A lower-case hexadecimal digit. -/
def hexDigit (n : Nat) : Char := if n < 10 then Char.ofNat (48 + n) else Char.ofNat (87 + n)

/-- One character inside the quotes. -/
def escapeChar (c : Char) : List Char :=
  if c == '"' then ['\\', '"']
  else if c == '\\' then ['\\', '\\']
  else if c == '\x08' then ['\\', 'b']
  else if c == '\t' then ['\\', 't']
  else if c == '\n' then ['\\', 'n']
  else if c == '\x0c' then ['\\', 'f']
  else if c == '\r' then ['\\', 'r']
  else if c.toNat < 0x20 then
    ['\\', 'u', '0', '0', hexDigit (c.toNat / 16), hexDigit (c.toNat % 16)]
  else [c]

/-- A text with its quotes. -/
def quote (s : String) : List Char := '"' :: s.toList.flatMap escapeChar ++ ['"']

/-! ## 2. Values on one line -/

/-- An opening brace. -/
def openBrace : Char := Char.ofNat 0x7B

/-- A closing brace. -/
def closeBrace : Char := Char.ofNat 0x7D

mutual

/-- The text of a value on one line. -/
def compactChars : Json → List Char
  | .null => ['n', 'u', 'l', 'l']
  | .bool true => ['t', 'r', 'u', 'e']
  | .bool false => ['f', 'a', 'l', 's', 'e']
  | .integer n => (Text.Decimal.ofInt n).toList
  | .string s => quote s
  | .array elements => '[' :: compactElements elements ++ [']']
  | .object fields => openBrace :: compactFields fields ++ [closeBrace]

/-- The elements of a list with commas between them. -/
def compactElements : List Json → List Char
  | [] => []
  | [v] => v.compactChars
  | v :: vs => v.compactChars ++ ',' :: compactElements vs

/-- The fields of an object with commas between them. -/
def compactFields : List (String × Json) → List Char
  | [] => []
  | [(name, v)] => quote name ++ ':' :: v.compactChars
  | (name, v) :: rest => quote name ++ ':' :: v.compactChars ++ ',' :: compactFields rest

end

/-- The text of a value on one line. -/
def compact (v : Json) : String := String.ofList v.compactChars

/-! ## 3. Values over several lines -/

/-- A new line at a depth. -/
def newLine (depth : Nat) : List Char := '\n' :: List.replicate (2 * depth) ' '

mutual

/-- The text of a value over several lines, at a depth. -/
def prettyChars (depth : Nat) : Json → List Char
  | .array [] => ['[', ']']
  | .array elements => '[' :: prettyElements (depth + 1) elements ++ newLine depth ++ [']']
  | .object [] => [openBrace, closeBrace]
  | .object fields =>
    openBrace :: prettyFields (depth + 1) fields ++ newLine depth ++ [closeBrace]
  | v => v.compactChars

/-- The elements of a list, each on its own line. -/
def prettyElements (depth : Nat) : List Json → List Char
  | [] => []
  | [v] => newLine depth ++ v.prettyChars depth
  | v :: vs => newLine depth ++ v.prettyChars depth ++ ',' :: prettyElements depth vs

/-- The fields of an object, each on its own line. -/
def prettyFields (depth : Nat) : List (String × Json) → List Char
  | [] => []
  | [(name, v)] => newLine depth ++ quote name ++ ':' :: ' ' :: v.prettyChars depth
  | (name, v) :: rest =>
    newLine depth ++ quote name ++ ':' :: ' ' :: v.prettyChars depth ++
      ',' :: prettyFields depth rest

end

/-- The text of a value over several lines. -/
def pretty (v : Json) : String := String.ofList (v.prettyChars 0)

end Json

end CredentialSync
