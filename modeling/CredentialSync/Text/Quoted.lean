import CredentialSync.Text.Hidden

/-!
# Quoted text

The form in which a text stands inside a message: between double quotes, on one line, every
character recognisable.

* `"`, `\` and the usual control characters have two-character escapes;
* a hidden character (`Hidden.isHidden`) is written `\u{…}` with its code point in lower-case
  hexadecimal digits;
* everything else stands for itself.
-/

namespace CredentialSync.Text.Quoted

/-- The lower-case hexadecimal digits of a number, no leading zero. -/
def hex (n : Nat) : List Char := Nat.toDigits 16 n

/-- One character inside the quotes. -/
def escapeChar (c : Char) : List Char :=
  if c == '"' then ['\\', '"']
  else if c == '\\' then ['\\', '\\']
  else if c == '\n' then ['\\', 'n']
  else if c == '\r' then ['\\', 'r']
  else if c == '\t' then ['\\', 't']
  else if c.toNat == 0 then ['\\', '0']
  else if Hidden.isHidden c then ['\\', 'u', Char.ofNat 0x7B] ++ hex c.toNat ++ [Char.ofNat 0x7D]
  else [c]

/-- The quoted form of a text. -/
def quote (s : String) : String :=
  String.ofList ('"' :: (s.toList.flatMap escapeChar ++ ['"']))

end CredentialSync.Text.Quoted
