import CredentialSync.Text.Boundaries
import CredentialSync.Url.Accents
import CredentialSync.Url.Spellings

/-!
# Folding the text of a domain

Domains that differ in case, in the form of their letters or in the way their marks are typed are
one domain. `fold` gives the text that all of them share: every character gives way to the letters
that it stands for (`Letters`, `Spellings`), characters without a trace vanish, and letters and
marks take their one form (`Accents`).

A text of ASCII characters only becomes small.
-/

namespace CredentialSync.Url.Folding

/-- Where characters that leave no trace in a domain begin or end. -/
def ignored : List Nat := [
  0xad, 0xae, 0x34f, 0x350, 0x115f, 0x1161, 0x17b4, 0x17b6, 0x180b, 0x1810, 0x200b, 0x200c,
  0x2060, 0x2065, 0x206a, 0x2070, 0x3164, 0x3165, 0xfe00, 0xfe10, 0xfeff, 0xff00, 0xffa0, 0xffa1,
  0x1bca0, 0x1bca4, 0x1d173, 0x1d17b, 0xe0100, 0xe01f0]

/-- An ASCII letter as a small one. -/
def small (c : Nat) : Nat := if 0x41 ≤ c && c ≤ 0x5a then c + 0x20 else c

/-- What a character stands for. -/
def foldChar (c : Nat) : List Nat :=
  if c < 0x80 then [small c]
  else if Text.Boundaries.contains [(0x110000, ignored)] c then []
  else
    match Letters.letter? c with
    | some letter => [letter]
    | none => (Spellings.spelling? c).getD [c]

/-- The text that all spellings of a domain share. -/
def fold (cs : List Nat) : List Nat :=
  if cs.all (· < 0x80) then cs.map small else Accents.compose (cs.flatMap foldChar)

end CredentialSync.Url.Folding
