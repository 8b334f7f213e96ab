import CredentialSync.Url.Path

/-!
# Addresses

The normal form of the address of an origin: `Url.parse?` reads an absolute address into its
parts, each in normal form, and `Url.text` writes the parts one after another. Text that is no
absolute address has no normal form.

* The scheme decides how the rest is read (`Kind`): internet addresses and file addresses treat a
  backslash as a slash and have hosts in normal form; other addresses keep theirs, or have no
  host at all.
* Blanks and controls at both ends, and tabs and line ends anywhere, do not count; the path of a
  file address still takes note of them behind a drive.
-/

namespace CredentialSync

/-- The parts of an address in normal form. -/
structure Url where
  scheme : List Char
  /-- User, host and port, as written behind the two slashes. -/
  authority : Option (List Char)
  path : List Char
  query : Option (List Char)
  fragment : Option (List Char)
  deriving DecidableEq

namespace Url

/-! ## 1. Schemes -/

/-- How the address of a scheme is read. -/
inductive Kind where
  | internet
  | file
  | other
  deriving DecidableEq

/-- The kind of a scheme in small letters. -/
def kindOf (scheme : List Char) : Kind :=
  if ["http", "https", "ws", "wss", "ftp"].contains (String.ofList scheme) then .internet
  else if String.ofList scheme == "file" then .file
  else .other

/-- The port that is not written. -/
def defaultPort? (scheme : List Char) : Option Nat :=
  [("http", 80), ("ws", 80), ("https", 443), ("wss", 443), ("ftp", 21)].lookup
    (String.ofList scheme)

/-- Whether the scheme's addresses treat a backslash as a slash. -/
def Kind.special (k : Kind) : Bool := k != .other

/-- The scheme in small letters, and the text behind its colon. -/
def scheme? (cs : List Char) : Option (List Char × List Char) :=
  let name := cs.takeWhile fun c => Path.isLetter c || ('0' ≤ c && c ≤ '9')
    || c == '+' || c == '-' || c == '.'
  match cs.drop name.length with
  | ':' :: rest => if name.head?.any Path.isLetter then some (name.map Char.toLower, rest) else none
  | _ => none

/-! ## 2. User, host and port -/

/-- Whether the character ends the authority. -/
def Kind.endsAuthority (k : Kind) (c : Char) : Bool :=
  c == '/' || c == '?' || c == '#' || (k.special && c == '\\')

/-- Characters that user names and passwords escape, besides non-ASCII ones. -/
def isUserEscaped (c : Char) : Bool :=
  Path.isEscaped c || ['/', ':', ';', '=', '@', '[', '\\', ']', '^', '|'].contains c

/-- The written form of user and password, with the `@` behind them. A password without
characters is not written, and neither is an empty pair. -/
def userText (cs : List Char) : List Char :=
  let name := cs.takeWhile (· != ':')
  let password := cs.drop (name.length + 1)
  let encoded (part : List Char) := Text.Percent.encode isUserEscaped (String.ofList part)
  let written := encoded name ++ (if password.isEmpty then [] else ':' :: encoded password)
  if written.isEmpty then [] else written ++ ['@']

/-- Splits off user and password: everything up to the last `@` of the authority. Gives their
written form and the rest of the text. -/
def user? (k : Kind) (cs : List Char) : Option (List Char × List Char) :=
  let authority := cs.takeWhile fun c => !k.endsAuthority c
  if authority.contains '@' then
    let host := (authority.reverse.takeWhile (· != '@')).reverse
    let user := authority.take (authority.length - host.length - 1)
    let rest := host ++ cs.drop authority.length
    if user.isEmpty && rest.head?.any k.endsAuthority then none
    else some (userText user, rest)
  else some ([], cs)

/-- The length of the host: up to a colon outside brackets or the end of the authority. -/
def hostLength (k : Kind) (inBrackets : Bool) : List Char → Nat
  | [] => 0
  | c :: cs =>
    if (c == ':' && !inBrackets) || k.endsAuthority c then 0
    else hostLength k (if c == '[' then true else if c == ']' then false else inBrackets) cs + 1

/-- The port behind the colon and the rest of the text; the default port is left out. -/
def port? (scheme : List Char) (cs : List Char) : Option (List Char × List Char) :=
  let digits := cs.takeWhile Char.isDigit
  let rest := cs.drop digits.length
  let port := (Text.Decimal.digits? digits).getD 0
  if port > 65535 then none
  else if rest.head?.all fun c => ['/', '\\', '?', '#'].contains c then
    some (if digits.isEmpty || defaultPort? scheme == some port then []
      else ':' :: Nat.toDigits 10 port, rest)
  else none

/-- Host and port of an address that is no file address, and the rest of the text. -/
def hostAndPort? (k : Kind) (scheme : List Char) (hasUser : Bool) (cs : List Char) :
    Option (List Char × List Char) :=
  let raw := cs.take (hostLength k false cs)
  let rest := cs.drop raw.length
  let host := if k.special then Host.special? raw else Host.opaque? raw
  host.bind fun host =>
    if host.isEmpty && (hasUser || rest.head? == some ':') then none
    else
      match rest with
      | ':' :: rest => (port? scheme rest).map fun (port, rest) => (host ++ port, rest)
      | rest => some (host, rest)

/-! ## 3. What follows the authority -/

/-- Characters that a query escapes, besides non-ASCII ones. -/
def isQueryEscaped (special : Bool) (c : Char) : Bool :=
  Host.isControl c || [' ', '"', '#', '<', '>'].contains c || (special && c.toNat == 0x27)

/-- Characters that a fragment escapes, besides non-ASCII ones. -/
def isFragmentEscaped (c : Char) : Bool :=
  Host.isControl c || [' ', '"', '<', '>', Char.ofNat 0x60].contains c

/-- The query and the fragment that the text writes. -/
def queryAndFragment (special : Bool) : List Char → Option (List Char) × Option (List Char)
  | '?' :: cs =>
    let query := cs.takeWhile (· != '#')
    let encoded := Text.Percent.encode (isQueryEscaped special) (String.ofList query)
    (some encoded, (cs.drop query.length).tail?.map fragment)
  | '#' :: cs => (none, some (fragment cs))
  | _ => (none, none)
where
  fragment (cs : List Char) : List Char :=
    Text.Percent.encode isFragmentEscaped (String.ofList cs)

/-- An address from its first parts and the text behind its path. -/
def withTail (scheme : List Char) (authority : Option (List Char)) (path : List Char)
    (tail : List Char) : Url :=
  let (query, fragment) := queryAndFragment (kindOf scheme).special tail
  ⟨scheme, authority, path, query, fragment⟩

/-- The path behind an authority. An internet address has at least the path `/`. -/
def pathAfterAuthority (k : Kind) (cs : List Char) : List Char × List Char :=
  let isStart (c : Char) := c == '/' || (k.special && c == '\\')
  let bare := !k.special && cs.head?.all fun c => c == '?' || c == '#'
  if bare then ([], cs)
  else
    let rest := if cs.head?.any isStart then cs.drop 1 else cs
    let (draft, rest) := Path.read k.special false ⟨['/'], 1, false⟩ [] rest
    (draft.text, rest)

/-- Reads everything behind `//` of an address that is no file address. -/
def afterSlashes? (k : Kind) (scheme cs : List Char) : Option Url :=
  (user? k cs).bind fun (user, rest) =>
    (hostAndPort? k scheme (!user.isEmpty) rest).map fun (host, rest) =>
      let (path, rest) := pathAfterAuthority k rest
      withTail scheme (some (user ++ host)) path rest

/-! ## 4. File addresses -/

/-- Whether the character is a slash of a file address. -/
def isSlash (c : Char) : Bool := c == '/' || c == '\\'

/-- The text without line breaks. -/
def counted (cs : List Char) : List Char := cs.filter fun c => !Path.isLineBreak c

/-- What stands behind the first `n` characters, line breaks not counted. -/
def behind : Nat → List Char → List Char
  | 0, cs => cs
  | _ + 1, [] => []
  | n + 1, c :: cs => if Path.isLineBreak c then behind (n + 1) cs else behind n cs

/-- A file address of a host with the path that `cs` writes behind `start`. A drive takes the place
of the host. -/
def fileUrl (scheme host start cs : List Char) : Url :=
  let (draft, tail) := Path.read true true ⟨start, start.length, false⟩ [] cs
  withTail scheme (some (if draft.drive then [] else host)) (Path.oneSlash draft.text)
    (counted tail)

/-- The host behind `//` of a file address and the rest of the text; `localhost` is no host. -/
def fileHost? (cs : List Char) : Option (List Char × List Char) :=
  let raw := cs.takeWhile fun c => !Kind.file.endsAuthority c
  let rest := cs.drop raw.length
  if raw.isEmpty then some ([], rest)
  else (Host.special? raw).map fun host =>
    (if String.ofList host == "localhost" then [] else host, rest)

/-- Reads everything behind `file:`, with its line breaks. The path behind a host begins at the
slash that ends the host; without a host it begins behind the two slashes. -/
def file? (scheme raw : List Char) : Option Url :=
  let cs := counted raw
  match cs with
  | a :: b :: rest =>
    if isSlash a && isSlash b then
      if Path.isDrive (rest.takeWhile fun c => !Kind.file.endsAuthority c) then
        some (fileUrl scheme [] ['/'] (behind 2 raw))
      else
        (fileHost? rest).map fun (host, rest) =>
          let rest := if !host.isEmpty && rest.head?.any isSlash then rest.drop 1 else rest
          fileUrl scheme host ['/'] (behind (cs.length - rest.length) raw)
    else some (fileUrl scheme [] (if isSlash a then [] else ['/']) raw)
  | _ => some (fileUrl scheme [] (if cs.head?.any isSlash then [] else ['/']) raw)

/-! ## 5. All addresses -/

/-- Controls and blanks do not count at either end of an address. -/
def trim (cs : List Char) : List Char :=
  let blank (c : Char) := c.toNat ≤ 0x20
  ((cs.dropWhile blank).reverse.dropWhile blank).reverse

/-- The parts of the address that the text writes. -/
def parse? (text : String) : Option Url :=
  let raw := trim text.toList
  let cs := counted raw
  (scheme? cs).bind fun (scheme, rest) =>
    match kindOf scheme with
    | .file => file? scheme (behind (cs.length - rest.length) raw)
    | .internet => afterSlashes? .internet scheme (rest.dropWhile isSlash)
    | .other =>
      match rest with
      | '/' :: '/' :: rest => afterSlashes? .other scheme rest
      | '/' :: rest =>
        let (draft, tail) := Path.read false false ⟨['/'], 1, false⟩ [] rest
        some (withTail scheme none draft.text tail)
      | rest =>
        let path := rest.takeWhile fun c => c != '?' && c != '#'
        some (withTail scheme none (Text.Percent.encode Host.isControl (String.ofList path))
          (rest.drop path.length))

/-- The text of an address. Without an authority, a path of two slashes is set off by `/.`. -/
def text (u : Url) : String :=
  let authority :=
    match u.authority with
    | some a => ['/', '/'] ++ a
    | none => if u.path.take 2 == ['/', '/'] then ['/', '.'] else []
  let query := match u.query with | some q => '?' :: q | none => []
  let fragment := match u.fragment with | some f => '#' :: f | none => []
  String.ofList (u.scheme ++ ':' :: (authority ++ u.path ++ query ++ fragment))

end Url

end CredentialSync
