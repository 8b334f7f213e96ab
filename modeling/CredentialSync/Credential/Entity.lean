import CredentialSync.Credential.Tag

/-!
# Entities

An `Entity` is a credential together with what the remote side knows about it. `Entity.ofSpecifics`
and `Entity.ofRecord` wrap a credential that the remote side does not know yet.
-/

namespace CredentialSync

/-- A credential as it travels between the devices. -/
structure Entity where
  tagHash : String := ""
  id : String := ""
  name : String := ""
  specifics : Specifics := {}
  creationTime : Int64 := 0
  modificationTime : Int64 := 0
  deriving DecidableEq, Inhabited

namespace Entity

/-- A credential that the remote side does not know yet. -/
def ofSpecifics (s : Specifics) : Entity where
  tagHash := s.tagHash
  name := s.signonRealm
  specifics := s
  creationTime := s.dateCreated

/-- A local record that the remote side does not know yet. -/
def ofRecord (r : Record) : Entity := ofSpecifics r.specifics

/-- The credential as the local store holds it. -/
def record (e : Entity) : Record := e.specifics.record

end Entity

end CredentialSync
