import CredentialSync.Credential.Specifics
import CredentialSync.Digest.Base64
import CredentialSync.Digest.Sha256
import CredentialSync.Text.Percent
import CredentialSync.Url.Basic

/-!
# Client tags

The **client tag** of a credential names it across devices. It joins the origin in normal form and
the other fields of the natural key with bars. The origin is escaped, so the first bar of a tag
ends it; the other fields stand as they are.

The **tag hash** is what leaves the device: the SHA-256 digest of the tag behind the name of the
record type, in Base64.
-/

namespace CredentialSync

namespace Origin

/-- The normal form of an origin: that of an address, or the text itself if it is none. -/
def normalize (origin : String) : String :=
  match Url.parse? origin with
  | some url => url.text
  | none => origin

/-- ASCII characters that are escaped in the origin of a tag. -/
def isEscaped (c : Char) : Bool :=
  c.toNat < 0x20 || c.toNat == 0x7f
    || [' ', '"', '#', '%', ':', '<', '>', '?', '[', '\\', ']', '^', Char.ofNat 0x60,
      Char.ofNat 0x7b, '|', Char.ofNat 0x7d].contains c

/-- The escaped form of a text. -/
def escape (s : String) : String := String.ofList (Text.Percent.encode isEscaped s)

end Origin

/-- The name of the record type, in front of every hashed tag. -/
def recordType : String := "passwords"

/-- The hash of a client tag. -/
def tagHash (tag : String) : String :=
  Digest.Base64.encode (Digest.Sha256.digest (Text.Utf8.encode (recordType ++ tag)))

namespace Specifics

/-- The client tag of a credential. -/
def tag (s : Specifics) : String :=
  Origin.escape (Origin.normalize s.origin) ++ "|" ++ s.usernameElement ++ "|" ++ s.usernameValue
    ++ "|" ++ s.passwordElement ++ "|" ++ s.signonRealm

/-- The hash of the credential's client tag. -/
def tagHash (s : Specifics) : String := CredentialSync.tagHash s.tag

/-- The hash of all fields, by which versions of a credential are told apart. -/
def payloadHash (s : Specifics) : String := Digest.Base64.encode (Digest.Sha256.digest s.blob)

end Specifics

end CredentialSync
