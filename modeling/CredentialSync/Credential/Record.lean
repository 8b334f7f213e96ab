/-!
# Credential records

A `Record` is one credential as the local store holds it. Two records describe the same credential
when they agree in the five fields of their `NaturalKey`; all other fields are its payload.
-/

namespace CredentialSync

/-! ## 1. Authentication schemes -/

/-- How a site asks for the credential. -/
inductive Scheme where
  | html
  | basic
  | digest
  | other
  deriving DecidableEq, Repr, Inhabited

/-- The number of a scheme. -/
def Scheme.code : Scheme → Int32
  | .html => 0
  | .basic => 1
  | .digest => 2
  | .other => 3

/-- The scheme of a number; numbers without a scheme stand for a form. -/
def Scheme.ofCode (code : Int32) : Scheme :=
  if code == 1 then .basic
  else if code == 2 then .digest
  else if code == 3 then .other
  else .html

/-! ## 2. Records -/

/-- The fields that say which credential a record describes. -/
structure NaturalKey where
  origin : String := ""
  usernameElement : String := ""
  usernameValue : String := ""
  passwordElement : String := ""
  signonRealm : String := ""
  deriving DecidableEq, Repr, Inhabited

/-- The order of natural keys: field by field, each by its characters. -/
def NaturalKey.compare (a b : NaturalKey) : Ordering :=
  (Ord.compare a.origin b.origin)
    |>.then (Ord.compare a.usernameElement b.usernameElement)
    |>.then (Ord.compare a.usernameValue b.usernameValue)
    |>.then (Ord.compare a.passwordElement b.passwordElement)
    |>.then (Ord.compare a.signonRealm b.signonRealm)

/-- One credential as the local store holds it. -/
structure Record where
  origin : String := ""
  action : String := ""
  usernameElement : String := ""
  usernameValue : String := ""
  passwordElement : String := ""
  passwordValue : String := ""
  signonRealm : String := ""
  scheme : Scheme := .html
  preferred : Bool := false
  blacklisted : Bool := false
  timesUsed : Int64 := 0
  dateCreated : Int64 := 0
  displayName : String := ""
  iconUrl : String := ""
  deriving DecidableEq, Inhabited

namespace Record

/-- Which credential the record describes. -/
def naturalKey (r : Record) : NaturalKey where
  origin := r.origin
  usernameElement := r.usernameElement
  usernameValue := r.usernameValue
  passwordElement := r.passwordElement
  signonRealm := r.signonRealm

/-- A record of a credential with an empty payload. -/
def ofNaturalKey (k : NaturalKey) : Record where
  origin := k.origin
  usernameElement := k.usernameElement
  usernameValue := k.usernameValue
  passwordElement := k.passwordElement
  signonRealm := k.signonRealm

/-- The record with another password. -/
def withPassword (r : Record) (password : String) : Record := { r with passwordValue := password }

/-- Whether both records describe the same credential. -/
def sameNaturalKey (r s : Record) : Bool := r.naturalKey == s.naturalKey

/-- A complete record for a realm, for trying things out. -/
def sample (realm : String) : Record where
  origin := "http://www.origin.com"
  usernameElement := "username_element"
  usernameValue := "username_value"
  passwordElement := "password_element"
  passwordValue := "password"
  signonRealm := realm

end Record

end CredentialSync
