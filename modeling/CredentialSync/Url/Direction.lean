import CredentialSync.Text.Marks

/-!
# Writing direction in domains

A domain in which some character runs from right to left has to be readable in spite of it. Each of
its labels then runs in one direction, which its first character gives:

* a label from right to left holds no letters of the other direction, ends with a letter or digit,
  and does not mix the two kinds of digits;
* a label from left to right holds no letters of the other direction and no Arabic digits, and ends
  with a letter or digit.

Marks behind the last letter or digit do not count.
-/

namespace CredentialSync.Url.Direction

/-- What a character means for the direction of a text. -/
inductive Class where
  /-- A letter from left to right. -/
  | leftToRight
  /-- A letter from right to left. -/
  | rightToLeft
  /-- A digit. -/
  | digit
  /-- An Arabic digit. -/
  | arabicDigit
  /-- A mark on the character before it. -/
  | mark
  /-- Anything else. -/
  | neutral
  deriving DecidableEq

/-- Arabic digits and signs that belong to them. -/
def isArabicDigit (c : Nat) : Bool :=
  (0x660 ≤ c && c ≤ 0x669) || c == 0x66b || c == 0x66c || (0x10d30 ≤ c && c ≤ 0x10d39)
    || (0x10d40 ≤ c && c ≤ 0x10d49) || (0x10e60 ≤ c && c ≤ 0x10e7e)

/-- Digits outside ASCII that are used like the ASCII ones. -/
def isDigit (c : Nat) : Bool := (0x6f0 ≤ c && c ≤ 0x6f9) || (0x102e1 ≤ c && c ≤ 0x102fb)

/-- Marks, apart from a few vowel signs that count as letters from left to right. -/
def isDirectionless (c : Nat) : Bool :=
  Text.Marks.isNonspacing c && !([0xcbf, 0xcc6, 0x11a07, 0x11a08, 0x11c3f].contains c)

/-- Where signs that have no direction begin or end; marks and digits are told apart before. -/
def neutral : List Nat := [
  0xa1, 0xdf, 0xf7, 0xf8, 0x2b9, 0x2bb, 0x2c2, 0x2d0, 0x2d2, 0x2ee, 0x2ef, 0x371, 0x375, 0x377,
  0x3f6, 0x3f8, 0x58a, 0x5be, 0x606, 0x608, 0x609, 0x60b, 0x60c, 0x60d, 0x60e, 0x61b, 0x66a,
  0x66d, 0x6de, 0x6e5, 0x6e9, 0x6ee, 0x7f6, 0x7fa, 0x9f2, 0x9f4, 0x9fb, 0x9fc, 0xaf1, 0xaf9,
  0xbf3, 0xc01, 0xc78, 0xc7f, 0xe3f, 0xe40, 0xf3a, 0xf3e, 0x1390, 0x13a0, 0x1400, 0x1401, 0x169b,
  0x16a0, 0x17db, 0x17dc, 0x17f0, 0x1810, 0x1940, 0x1946, 0x19de, 0x1a00, 0x200c, 0x214e, 0x218a,
  0x2336, 0x237b, 0x2395, 0x2396, 0x26ac, 0x26ad, 0x2800, 0x2900, 0x2c30, 0x2ce5, 0x2cec, 0x2cf9,
  0x2d00, 0x2e00, 0x3005, 0x3008, 0x3021, 0x3030, 0x3031, 0x3037, 0x303b, 0x303d, 0x3041, 0x30a0,
  0x30a1, 0x30fb, 0x30fc, 0x31c0, 0x31f0, 0x4dc0, 0x4e00, 0xa490, 0xa4d0, 0xa60d, 0xa610, 0xa673,
  0xa681, 0xa700, 0xa723, 0xa788, 0xa789, 0xa828, 0xa830, 0xa838, 0xa840, 0xa874, 0xa880, 0xab6a,
  0xabc0, 0xfbc3, 0xfe73, 0x10101, 0x10102, 0x10140, 0x1018d, 0x10190, 0x101d0, 0x1091f, 0x10920,
  0x10b39, 0x10b40, 0x10d6e, 0x10d6f, 0x10ed0, 0x10f00, 0x11052, 0x11066, 0x11660, 0x11680,
  0x11fd5, 0x11fff, 0x16fe2, 0x16fe3, 0x1cc00, 0x1cf50, 0x1d1e9, 0x1d2c0, 0x1d300, 0x1d360,
  0x1e2ff, 0x1e4d0, 0x1eef0, 0x1f150, 0x1f16d, 0x1f170, 0x1f1ad, 0x1f1e6, 0x1f260, 0x20000]

/-- The blocks of scripts that run from right to left. -/
def isRightToLeftBlock (c : Nat) : Bool :=
  (0x590 ≤ c && c ≤ 0x8ff) || (0xfb1d ≤ c && c ≤ 0xfdff) || (0xfe70 ≤ c && c ≤ 0xfeff)
    || (0x10800 ≤ c && c ≤ 0x10fff) || (0x1e800 ≤ c && c ≤ 0x1efff)

/-- The class of a code point. -/
def classOf (c : Nat) : Class :=
  if c < 0x80 then
    let ch := Char.ofNat c
    if ch.isAlpha then .leftToRight else if ch.isDigit then .digit else .neutral
  else if isArabicDigit c then .arabicDigit
  else if isDigit c then .digit
  else if isDirectionless c then .mark
  else if Text.Boundaries.contains [(0x110000, neutral)] c then .neutral
  else if isRightToLeftBlock c then .rightToLeft
  else .leftToRight

/-- The last class that is no mark. -/
def lastClass? (classes : List Class) : Option Class :=
  (classes.reverse.dropWhile (· == .mark)).head?

/-- Whether a label runs in one direction. -/
def isOneWay (label : List Nat) : Bool :=
  let classes := label.map classOf
  match classes with
  | [] => true
  | .rightToLeft :: _ =>
    !classes.contains .leftToRight && !(classes.contains .digit && classes.contains .arabicDigit) &&
      [some Class.rightToLeft, some .digit, some .arabicDigit].contains (lastClass? classes)
  | .leftToRight :: _ =>
    !classes.contains .rightToLeft && !classes.contains .arabicDigit &&
      [some Class.leftToRight, some .digit].contains (lastClass? classes)
  | _ => false

/-- Whether something in a label runs from right to left. -/
def hasRightToLeft (label : List Nat) : Bool :=
  label.any fun c => classOf c == .rightToLeft || classOf c == .arabicDigit

/-- Whether the labels of a domain go together. -/
def fits (labels : List (List Nat)) : Bool :=
  if labels.any hasRightToLeft then labels.all isOneWay else true

end CredentialSync.Url.Direction
