import CredentialSync.Text.Percent
import CredentialSync.Url.Domain
import CredentialSync.Url.Ipv4
import CredentialSync.Url.Ipv6

/-!
# Hosts

The normal form of the host of an address.

* `special?` reads the host of an internet address: an IPv6 address in brackets, an IPv4 address,
  or a domain, which may not be empty;
* `opaque?` reads the host of any other address: it is kept, with control characters and
  non-ASCII characters escaped.
-/

namespace CredentialSync.Url.Host

/-- Control characters: they are escaped everywhere. -/
def isControl (c : Char) : Bool := c.toNat < 0x20 || c.toNat == 0x7f

/-- An IPv6 address in brackets. -/
def bracketed? (cs : List Char) : Option (List Char) :=
  if cs.getLast? == some ']' then
    (Ipv6.parse (cs.drop 1).dropLast).map fun groups => '[' :: (Ipv6.render groups ++ [']'])
  else none

/-- The normal form of an internet host. -/
def special? (cs : List Char) : Option (List Char) :=
  if cs.head? == some '[' then bracketed? cs
  else
    match Domain.toAscii (Text.Percent.decode (Text.Utf8.encode (String.ofList cs))) with
    | none => none
    | some [] => none
    | some domain =>
      if Ipv4.endsInNumber domain then (Ipv4.parse domain).map Ipv4.render else some domain

/-- Characters that an opaque host may not hold. -/
def isDelimiter (c : Char) : Bool :=
  c.toNat == 0 || ['\t', '\n', '\r', ' ', '#', '/', ':', '<', '>', '?', '@', '[', '\\', ']', '^',
    '|'].contains c

/-- The normal form of any other host. -/
def opaque? (cs : List Char) : Option (List Char) :=
  if cs.head? == some '[' then bracketed? cs
  else if cs.any isDelimiter then none
  else some (Text.Percent.encode isControl (String.ofList cs))

end CredentialSync.Url.Host
