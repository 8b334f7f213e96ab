import CredentialSync.Blob
import CredentialSync.Credential.Record

/-!
# Specifics

`Specifics` is a credential as the remote side holds it. It has the fields of a record; the scheme
is a number there, and one that no scheme has reads as the scheme of a form.
-/

namespace CredentialSync

/-- One credential as the remote side holds it. -/
structure Specifics where
  origin : String := ""
  action : String := ""
  usernameElement : String := ""
  usernameValue : String := ""
  passwordElement : String := ""
  passwordValue : String := ""
  signonRealm : String := ""
  scheme : Int32 := 0
  preferred : Bool := false
  blacklisted : Bool := false
  timesUsed : Int64 := 0
  dateCreated : Int64 := 0
  displayName : String := ""
  iconUrl : String := ""
  deriving DecidableEq, Inhabited

/-- The record as the remote side holds it. -/
def Record.specifics (r : Record) : Specifics where
  origin := r.origin
  action := r.action
  usernameElement := r.usernameElement
  usernameValue := r.usernameValue
  passwordElement := r.passwordElement
  passwordValue := r.passwordValue
  signonRealm := r.signonRealm
  scheme := r.scheme.code
  preferred := r.preferred
  blacklisted := r.blacklisted
  timesUsed := r.timesUsed
  dateCreated := r.dateCreated
  displayName := r.displayName
  iconUrl := r.iconUrl

namespace Specifics

/-- The specifics as the local store holds them. -/
def record (s : Specifics) : Record where
  origin := s.origin
  action := s.action
  usernameElement := s.usernameElement
  usernameValue := s.usernameValue
  passwordElement := s.passwordElement
  passwordValue := s.passwordValue
  signonRealm := s.signonRealm
  scheme := Scheme.ofCode s.scheme
  preferred := s.preferred
  blacklisted := s.blacklisted
  timesUsed := s.timesUsed
  dateCreated := s.dateCreated
  displayName := s.displayName
  iconUrl := s.iconUrl

/-- The bytes of the specifics. -/
def blob (s : Specifics) : List UInt8 :=
  Blob.ofText s.origin ++ Blob.ofText s.action ++ Blob.ofText s.usernameElement
    ++ Blob.ofText s.usernameValue ++ Blob.ofText s.passwordElement ++ Blob.ofText s.passwordValue
    ++ Blob.ofText s.signonRealm ++ Blob.ofInt32 s.scheme ++ Blob.ofBool s.preferred
    ++ Blob.ofBool s.blacklisted ++ Blob.ofInt64 s.timesUsed ++ Blob.ofInt64 s.dateCreated
    ++ Blob.ofText s.displayName ++ Blob.ofText s.iconUrl

end Specifics

end CredentialSync
