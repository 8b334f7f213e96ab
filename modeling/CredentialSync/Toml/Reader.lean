import CredentialSync.Toml.Quoted
import CredentialSync.Toml.Number

/-!
# Reading TOML documents

`read?` gives the table that a document describes, or nothing if the document breaks a rule of the
format. A document is read line by line: a line is empty, a header, or a key with its value; all of
them may end in a comment. Only strings, lists and the readers of `Quoted` cross line ends.

* Keys have at most `nestingLimit` parts, and values lie at most `nestingLimit` lists and tables
  deep.
* Every step of a reader takes at least one character, so the readers get the length of the text as
  the bound of their recursion.
-/

namespace CredentialSync.Toml

namespace Reader

/-- How deep keys and values may be nested. -/
def nestingLimit : Nat := 79

/-! ## 1. Blanks and comments -/

/-- Whether a character is a blank within a line. -/
def isBlank (c : Char) : Bool := c == ' ' || c == '\t'

/-- Leaves out blanks. -/
def skipBlanks (cs : List Char) : List Char := cs.dropWhile isBlank

/-- Leaves out blanks, comments and line ends. -/
def skipLines (inComment : Bool) : List Char → List Char
  | [] => []
  | '\n' :: rest => skipLines false rest
  | '\r' :: '\n' :: rest => skipLines false rest
  | c :: rest =>
    if inComment then if Quoted.isPlain c then skipLines true rest else c :: rest
    else if isBlank c then skipLines false rest
    else if c == '#' then skipLines true rest
    else c :: rest

/-- Takes a line end; the end of the document is one. -/
def lineEnd? : List Char → Option (List Char)
  | [] => some []
  | '\n' :: rest => some rest
  | '\r' :: '\n' :: rest => some rest
  | _ => none

/-- Takes what may stand behind the content of a line, and the line end. -/
def endOfLine? (cs : List Char) : Option (List Char) :=
  match skipBlanks cs with
  | '#' :: rest => lineEnd? (rest.dropWhile Quoted.isPlain)
  | rest => lineEnd? rest

/-! ## 2. Keys -/

/-- The characters of keys without quotes. -/
def isBareKeyChar (c : Char) : Bool := c.isAlphanum || c == '_' || c == '-'

/-- Reads one part of a key. -/
def keyPart? (cs : List Char) : Option (String × List Char) :=
  match cs with
  | '"' :: rest => (Quoted.basic rest).map fun (text, rest) => (String.ofList text, rest)
  | c :: rest =>
    if c == Quoted.apostrophe then
      (Quoted.literal rest).map fun (text, rest) => (String.ofList text, rest)
    else if isBareKeyChar c then
      some (String.ofList (cs.takeWhile isBareKeyChar), cs.dropWhile isBareKeyChar)
    else none
  | [] => none

/-- Reads a key of at most `n` parts with dots between them, and the blanks behind it. -/
def key? : Nat → List Char → Option (List String × List Char)
  | 0, _ => none
  | n + 1, cs => do
    let (part, rest) ← keyPart? (skipBlanks cs)
    match skipBlanks rest with
    | '.' :: rest =>
      let (parts, rest) ← key? n rest
      return (part :: parts, rest)
    | rest => return ([part], rest)

/-- Reads a key and the equals sign behind it. -/
def keyOfValue? (cs : List Char) : Option (List String × List Char) := do
  let (path, rest) ← key? nestingLimit cs
  match rest with
  | '=' :: rest => return (path, skipBlanks rest)
  | _ => none

/-! ## 3. Values -/

mutual

/-- Reads a value; `room` says how deep lists and tables may go. -/
def value? : (fuel room : Nat) → List Char → Option (Value × List Char)
  | 0, _, _ => none
  | fuel + 1, room, cs =>
    match cs with
    | [] => none
    | '[' :: rest =>
      if room == 0 then none
      else (elements? fuel (room - 1) rest).map fun (vs, rest) => (.array vs, rest)
    | c :: rest =>
      if c == Char.ofNat 0x7B then
        if room == 0 then none
        else (pairs? fuel (room - 1) rest).map fun (es, rest) => (.table (entriesToValues es), rest)
      else if c == '"' || c == Quoted.apostrophe then
        (Quoted.read? cs).map fun (text, rest) => (.string (String.ofList text), rest)
      else Number.read? cs

/-- Reads the elements of a list and its closing bracket. A comma may stand behind the last
element. -/
def elements? : (fuel room : Nat) → List Char → Option (List Value × List Char)
  | 0, _, _ => none
  | fuel + 1, room, cs =>
    match skipLines false cs with
    | ']' :: rest => some ([], rest)
    | cs => do
      let (v, rest) ← value? fuel room cs
      match skipLines false rest with
      | ',' :: rest =>
        let (vs, rest) ← elements? fuel room rest
        return (v :: vs, rest)
      | ']' :: rest => return ([v], rest)
      | _ => none

/-- Reads what stands in a table of one line, and its closing brace. -/
def pairs? : (fuel room : Nat) → List Char → Option (Entries × List Char)
  | 0, _, _ => none
  | fuel + 1, room, cs =>
    match skipBlanks cs with
    | [] => none
    | c :: rest =>
      if c == Char.ofNat 0x7D then some ([], rest) else morePairs? fuel room [] (c :: rest)

/-- Reads at least one pair of a key and a value onto those read before. -/
def morePairs? : (fuel room : Nat) → Entries → List Char → Option (Entries × List Char)
  | 0, _, _, _ => none
  | fuel + 1, room, es, cs => do
    let (path, rest) ← keyOfValue? cs
    let (v, rest) ← value? fuel room rest
    let es ← es.addKey v path
    match skipBlanks rest with
    | ',' :: rest => morePairs? fuel room es rest
    | c :: rest => if c == Char.ofNat 0x7D then return (es, rest) else none
    | [] => none

end

/-! ## 4. Documents -/

/-- Reads the path of a header and its closing brackets. -/
def header? (listed : Bool) (cs : List Char) : Option (List String × List Char) := do
  let (path, rest) ← key? nestingLimit cs
  match listed, rest with
  | false, ']' :: rest => return (path, rest)
  | true, ']' :: ']' :: rest => return (path, rest)
  | _, _ => none

/-- Reads lines onto the tables read before; `current` is the path of the header that holds. -/
def lines? : Nat → (current : List String) → Entries → List Char → Option Entries
  | 0, _, _, _ => none
  | fuel + 1, current, es, cs =>
    match skipBlanks cs with
    | [] => some es
    | '[' :: '[' :: rest => do
      let (path, rest) ← header? true rest
      let es ← es.addHeader true path
      lines? fuel path es (← endOfLine? rest)
    | '[' :: rest => do
      let (path, rest) ← header? false rest
      let es ← es.addHeader false path
      lines? fuel path es (← endOfLine? rest)
    | c :: rest =>
      if c == '#' || c == '\n' || c == '\r' then do
        lines? fuel current es (← endOfLine? (c :: rest))
      else do
        let (path, rest) ← keyOfValue? (c :: rest)
        let (v, rest) ← value? (2 * rest.length + 2) nestingLimit rest
        let es ← es.modifyAt (Entries.addKey v path) current
        lines? fuel current es (← endOfLine? rest)

/-- A byte order mark at the start of a document does not count. -/
def skipMark : List Char → List Char
  | c :: cs => if c.toNat == 0xFEFF then cs else c :: cs
  | [] => []

end Reader

/-- The table that a document describes. -/
def read? (text : String) : Option (List (String × Value)) :=
  let cs := Reader.skipMark text.toList
  (Reader.lines? (cs.length + 1) [] [] cs).map entriesToValues

end CredentialSync.Toml
