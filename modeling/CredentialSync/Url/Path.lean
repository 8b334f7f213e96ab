import CredentialSync.Url.Host

/-!
# Paths

The normal form of a path. A path is read segment by segment; the segments `.` and `..` take
effect, in plain and in escaped spelling, and the others are escaped.

Drive letters receive special care. In a file address a first segment of a letter and `:` or `|` is
a drive: it is written with `:`, its address has no host, and `..` does not leave it. A segment in
the place of a drive letter is not left by `..` in other addresses either.

A path under construction is the text written so far, and where in it the current segment begins.
-/

namespace CredentialSync.Url.Path

/-! ## 1. Drive letters -/

/-- An ASCII letter. -/
def isLetter (c : Char) : Bool := ('a' ≤ c && c ≤ 'z') || ('A' ≤ c && c ≤ 'Z')

/-- A letter and a colon or bar, and nothing else. -/
def isDrive : List Char → Bool
  | [c, d] => isLetter c && (d == ':' || d == '|')
  | _ => false

/-- A drive written with a colon. -/
def isPlainDrive (cs : List Char) : Bool := isDrive cs && cs.getLast? == some ':'

/-- Whether the text starts with a drive that ends at a delimiter or with the text. -/
def startsWithDrive : List Char → Bool
  | c :: d :: rest =>
    isDrive [c, d] && (match rest with
      | [] => true
      | e :: _ => ['/', '\\', '?', '#'].contains e)
  | _ => false

/-! ## 2. The path under construction -/

/-- The text up to its last slash, with it, and the text after it. -/
def splitLastSlash (path : List Char) : List Char × List Char :=
  let tail := (path.reverse.takeWhile (· != '/')).reverse
  (path.take (path.length - tail.length), tail)

/-- Whether the slash at the end may be dropped to reach the segment before it: there is one, and
it is no drive. -/
def canDropSlash (path : List Char) : Bool :=
  let (start, segment) := splitLastSlash path.dropLast
  !start.isEmpty && !startsWithDrive (segment ++ ['/'])

/-- Removes the last segment, unless it is the drive of a file address. -/
def shorten (file : Bool) (path : List Char) : List Char :=
  let (start, segment) := splitLastSlash path
  if file && isPlainDrive segment then path else start

/-- Adds a slash at the end unless there is one. -/
def closed (path : List Char) : List Char :=
  if path.getLast? == some '/' then path else path ++ ['/']

/-- Spellings of `.` in a segment. -/
def isDot (segment : List Char) : Bool :=
  segment == ['.'] || segment.map Char.toLower == ['%', '2', 'e']

/-- Spellings of `..` in a segment. -/
def isDoubleDot (segment : List Char) : Bool :=
  [['.', '.'], ['.', '%', '2', 'e'], ['%', '2', 'e', '.'],
    ['%', '2', 'e', '%', '2', 'e']].contains (segment.map Char.toLower)

/-- A path being read. -/
structure Draft where
  text : List Char
  /-- Where the current segment begins in `text`. -/
  start : Nat
  /-- Whether a drive was met, which takes the place of the host. -/
  drive : Bool := false

/-- Ends the current segment; `more` says that a slash follows it. -/
def Draft.close (file : Bool) (d : Draft) (more : Bool) : Draft :=
  let before := d.text.take d.start
  let segment := d.text.drop d.start
  let slash := if more then ['/'] else []
  let isDriveSegment := file && d.start == 1 && isDrive segment
  let text :=
    if isDoubleDot segment then
      let path := if before.getLast? == some '/' && canDropSlash before then before.dropLast
        else before
      let path := shorten file path
      if more then closed path else path
    else if isDot segment then closed before
    else if isDriveSegment then before ++ segment.take 1 ++ ':' :: slash
    else d.text ++ slash
  { text, start := text.length, drive := d.drive || isDriveSegment }

/-- A segment begins behind a drive even if no slash does. -/
def Draft.behindDrive (file : Bool) (d : Draft) : Draft :=
  if file && isPlainDrive (d.text.drop 1) then
    { d with text := d.text ++ ['/'], start := d.start + 1 }
  else d

/-! ## 3. Reading -/

/-- Characters that a path segment escapes, besides non-ASCII ones. -/
def isEscaped (c : Char) : Bool :=
  Host.isControl c || [' ', '"', '<', '>', Char.ofNat 0x60, '#', '?', Char.ofNat 0x7b,
    Char.ofNat 0x7d].contains c

/-- Characters that do not count anywhere in an address. -/
def isLineBreak (c : Char) : Bool := c == '\t' || c == '\n' || c == '\r'

/-- Appends the characters of `run`, last one first, to the current segment. -/
def Draft.append (d : Draft) (run : List Char) : Draft :=
  { d with text := d.text ++ Text.Percent.encode isEscaped (String.ofList run.reverse) }

/-- Reads the segments of `cs` onto the draft, up to a query or fragment; `run` holds the
characters since the last slash or line break, last one first. Gives the draft and the rest of the
text. A line break itself does not count; a drive that ends at one is a segment for what
follows. -/
def read (special file : Bool) (d : Draft) (run : List Char) : List Char → Draft × List Char
  | [] => ((d.append run).close file false, [])
  | c :: cs =>
    if c == '?' || c == '#' then ((d.append run).close file false, c :: cs)
    else if c == '/' || (special && c == '\\') then
      read special file ((d.append run).close file true) [] cs
    else if isLineBreak c then read special file (d.append run) [] cs
    else read special file (d.behindDrive file) (c :: run) cs

/-- A file address has exactly one slash at the start of its path. -/
def oneSlash (path : List Char) : List Char := '/' :: path.dropWhile (· == '/')

end CredentialSync.Url.Path
