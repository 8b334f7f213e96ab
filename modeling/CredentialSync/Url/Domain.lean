import CredentialSync.Text.Hidden
import CredentialSync.Text.Utf8
import CredentialSync.Url.Direction
import CredentialSync.Url.Folding
import CredentialSync.Url.Joiner
import CredentialSync.Url.Punycode

/-!
# Internet domains

The ASCII form of a domain. The text is folded (`Folding`), the domain is cut at its dots, and a
label that still holds a non-ASCII character is written in Punycode behind `xn--`. A label that
already begins with `xn--` has to be the form of some label.

Refused are characters that no domain may hold: those that delimit the parts of an address,
blanks, controls and everything without a visible form, apart from joiners in their place
(`Joiner`). So are labels that begin with a mark, labels of more than a thousand characters that
would have to be written in Punycode, and domains whose labels run in several directions at once
(`Direction`).
-/

namespace CredentialSync.Url.Domain

/-- ASCII characters that no domain may hold. -/
def isForbidden (c : Nat) : Bool :=
  c ≤ 0x20 || c == 0x7f
    || [0x25, 0x23, 0x2f, 0x3a, 0x3c, 0x3e, 0x3f, 0x40, 0x5b, 0x5c, 0x5d, 0x5e, 0x7c].contains c

/-- Where visible characters that have no place in a domain begin or end: signs for a blank with a
mark, numbers and abbreviations with a dot, descriptions of ideographs, substitutes. -/
def barred : List Nat := [
  0xa8, 0xa9, 0xaf, 0xb0, 0xb4, 0xb5, 0xb8, 0xb9, 0x2d8, 0x2de, 0x37a, 0x37b, 0x384, 0x386,
  0x1fbd, 0x1fbe, 0x1fbf, 0x1fc2, 0x1fcd, 0x1fd0, 0x1fdd, 0x1fe0, 0x1fed, 0x1fef, 0x1ffd, 0x1fff,
  0x2017, 0x2018, 0x2024, 0x2027, 0x203e, 0x203f, 0x2488, 0x249c, 0x2ff0, 0x3000, 0x309b, 0x309d,
  0x31ef, 0x31f0, 0x33c2, 0x33c3, 0x33c7, 0x33c8, 0x33d8, 0x33d9, 0xfc5e, 0xfc64, 0xfdfa, 0xfdfc,
  0xfe12, 0xfe13, 0xfe19, 0xfe1a, 0xfe30, 0xfe31, 0xfe49, 0xfe4d, 0xfe52, 0xfe53, 0xfe70, 0xfe71,
  0xfe72, 0xfe73, 0xfe74, 0xfe75, 0xfe76, 0xfe77, 0xfe78, 0xfe79, 0xfe7a, 0xfe7b, 0xfe7c, 0xfe7d,
  0xfe7e, 0xfe7f, 0xffe3, 0xffe4, 0xfffc, 0xfffe, 0x1f100, 0x1f101]

/-- Whether a folded character may stand in a domain. -/
def isAllowed (c : Nat) : Bool :=
  if c < 0x80 then !isForbidden c
  else c == Joiner.separator || c == Joiner.connector
    || !(Text.Hidden.isUnprintable (Char.ofNat c)
      || Text.Boundaries.contains [(0x110000, barred)] c)

/-- The folded code points of a text. -/
def foldAll (cs : List Char) : List Nat := Folding.fold (cs.map Char.toNat)

/-- Cuts at every dot. -/
def labels (cs : List Nat) : List (List Nat) := cs.splitOn 0x2e

/-- Whether a folded label may stand in a domain. -/
def isLabel (label : List Nat) : Bool :=
  label.all isAllowed &&
    (label.all (· < 0x80) || (!label.head?.any Text.Marks.isMark && Joiner.allFit [] label))

/-- The longest label that is written in Punycode. -/
def longestWritten : Nat := 1000

/-- The longest Punycode form that is read, without the `xn--` in front. -/
def longestRead : Nat := 2000

/-- A folded label with its ASCII form. A label behind `xn--` stands for what it encodes. -/
def readLabel (label : List Nat) : Option (List Nat × List Char) :=
  let text := label.map Char.ofNat
  if text.take 4 == ['x', 'n', '-', '-'] then
    if longestRead < text.length - 4 then none
    else
      match Punycode.decode? (text.drop 4) with
      | none => none
      | some decoded =>
        if decoded.any (0x80 ≤ ·) && isLabel decoded && Folding.fold decoded == decoded
            && Punycode.encode decoded == text.drop 4 then
          some (decoded, text)
        else none
  else if !isLabel label then none
  else if label.all (· < 0x80) then some (label, text)
  else if longestWritten < label.length then none
  else some (label, ['x', 'n', '-', '-'] ++ Punycode.encode label)

/-- The ASCII form of a domain given as bytes. -/
def toAscii (bytes : List UInt8) : Option (List Char) :=
  match Text.Utf8.decode bytes with
  | .error _ => none
  | .ok text =>
    match (labels (foldAll text.toList)).mapM readLabel with
    | none => none
    | some parts =>
      if Direction.fits (parts.map (·.1)) then some (['.'].intercalate (parts.map (·.2)))
      else none

end CredentialSync.Url.Domain
