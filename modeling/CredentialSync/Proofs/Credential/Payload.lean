import CredentialSync.Proofs.Digest.Base64
import CredentialSync.Proofs.Metadata.Layout

/-!
# Payload hashes

The payload hash of a credential is the digest of the bytes of all its fields. No separators stand between
the fields, but each can be read from the front: a text says its length, and all else has a fixed one. So the
bytes are read back as the credential (`Specifics.accepts_blob`), and different credentials have different
bytes (`Specifics.blob_injective`).

Whether two hashes differ is then a matter of the digests alone (`payloadHash_identifies`).
-/

namespace CredentialSync

/-! ## 1. Reading the fields -/

/-- Reads an integer of 32 bits. -/
def Blob.Reader.int32 : Reader Int32 := do
  return (UInt32.ofNat (number (← take 4 .cutOff))).toInt32

theorem Blob.Reader.accepts_int32 (v : Int32) : int32.Accepts (ofInt32 v) v := by
  have hnumber : number (littleEndian 4 v.toUInt32.toNat) = v.toUInt32.toNat := by
    rw [number_littleEndian]
    exact Nat.mod_eq_of_lt v.toUInt32.toNat_lt
  have hread := (accepts_take (length_littleEndian 4 v.toUInt32.toNat) .cutOff).map
    fun bs => (UInt32.ofNat (number bs)).toInt32
  rw [hnumber, UInt32.ofNat_toNat] at hread
  exact hread

/-- **Accepted bytes fix both the value and where they end.** -/
theorem Blob.Reader.Accepts.cancel {α : Type} {r : Reader α} {bs cs rest rest' : List UInt8} {a b : α}
    (h : r.Accepts bs a) (h' : r.Accepts cs b) (heq : bs ++ rest = cs ++ rest') :
    a = b ∧ rest = rest' := by
  have hread := h rest
  rw [heq, h' rest'] at hread
  exact Prod.mk.inj (Except.ok.inj hread.symm)

namespace Specifics

/-- The lengths of all texts can be written, as those of all texts in a memory with addresses of 64 bits. -/
structure Fits (s : Specifics) : Prop where
  origin : Blob.FitsText s.origin
  action : Blob.FitsText s.action
  usernameElement : Blob.FitsText s.usernameElement
  usernameValue : Blob.FitsText s.usernameValue
  passwordElement : Blob.FitsText s.passwordElement
  passwordValue : Blob.FitsText s.passwordValue
  signonRealm : Blob.FitsText s.signonRealm
  displayName : Blob.FitsText s.displayName
  iconUrl : Blob.FitsText s.iconUrl

open Blob.Reader in
/-- Reads a credential, field by field. -/
def reader : Blob.Reader Specifics := do
  let origin ← text
  let action ← text
  let usernameElement ← text
  let usernameValue ← text
  let passwordElement ← text
  let passwordValue ← text
  let signonRealm ← text
  let scheme ← int32
  let preferred ← bool
  let blacklisted ← bool
  let timesUsed ← int64
  let dateCreated ← int64
  let displayName ← text
  let iconUrl ← text
  return { origin, action, usernameElement, usernameValue, passwordElement, passwordValue, signonRealm,
           scheme, preferred, blacklisted, timesUsed, dateCreated, displayName, iconUrl }

open Blob.Reader in
/-- **The bytes of a credential are read back.** -/
theorem accepts_blob {s : Specifics} (h : s.Fits) : reader.Accepts s.blob s := by
  unfold blob
  simp only [List.append_assoc]
  refine (accepts_text h.origin).bind ?_
  refine (accepts_text h.action).bind ?_
  refine (accepts_text h.usernameElement).bind ?_
  refine (accepts_text h.usernameValue).bind ?_
  refine (accepts_text h.passwordElement).bind ?_
  refine (accepts_text h.passwordValue).bind ?_
  refine (accepts_text h.signonRealm).bind ?_
  refine (accepts_int32 s.scheme).bind ?_
  refine (accepts_bool s.preferred).bind ?_
  refine (accepts_bool s.blacklisted).bind ?_
  refine (accepts_int64 s.timesUsed).bind ?_
  refine (accepts_int64 s.dateCreated).bind ?_
  refine (accepts_text h.displayName).bind ?_
  exact (accepts_text h.iconUrl).map _

/-- **Different credentials have different bytes.** -/
theorem blob_injective {s t : Specifics} (hs : s.Fits) (ht : t.Fits) (h : s.blob = t.blob) : s = t :=
  ((accepts_blob hs).cancel (accepts_blob ht) (congrArg (· ++ []) h)).1

end Specifics

/-! ## 2. Hashes -/

namespace EntityMetadata

/-- Two hashes are the same exactly if the digests are. -/
theorem payloadHash_eq_iff (a b : Entity) :
    (ofRemote a).payloadHash = (ofRemote b).payloadHash ↔
      Digest.Sha256.digest a.specifics.blob = Digest.Sha256.digest b.specifics.blob :=
  ⟨Digest.Base64.encode_injective, congrArg Digest.Base64.encode⟩

/-- **The payload hash tells credentials apart.** The hashed bytes of two entities are the same only if their
    credentials are, and the hashes only if the digests of these bytes are. So the hashes are the same
    exactly for the same credential, unless the digests of different bytes collide. -/
theorem payloadHash_identifies {a b : Entity} (ha : a.specifics.Fits) (hb : b.specifics.Fits) :
    (a.specifics.blob = b.specifics.blob → a.specifics = b.specifics) ∧
    ((ofRemote a).payloadHash = (ofRemote b).payloadHash ↔
      Digest.Sha256.digest a.specifics.blob = Digest.Sha256.digest b.specifics.blob) ∧
    ((Digest.Sha256.digest a.specifics.blob = Digest.Sha256.digest b.specifics.blob →
        a.specifics.blob = b.specifics.blob) →
      ((ofRemote a).payloadHash = (ofRemote b).payloadHash ↔ a.specifics = b.specifics)) := by
  have hbytes : a.specifics.blob = b.specifics.blob → a.specifics = b.specifics :=
    Specifics.blob_injective ha hb
  refine ⟨hbytes, payloadHash_eq_iff a b, fun hcollide => ?_⟩
  rw [payloadHash_eq_iff]
  constructor
  · intro hdigest
    exact hbytes (hcollide hdigest)
  · intro hsame
    rw [hsame]

/-- Two versions of a credential whose texts, one behind the other, are the same. -/
theorem payloadHash_identifies_versions :
    let a : Entity := .ofSpecifics { passwordValue := "secret", signonRealm := "realm" }
    let b : Entity := .ofSpecifics { passwordValue := "secretr", signonRealm := "ealm" }
    a.specifics.Fits ∧ b.specifics.Fits ∧ a.specifics ≠ b.specifics ∧
      a.specifics.blob ≠ b.specifics.blob ∧ (ofRemote a).payloadHash ≠ (ofRemote b).payloadHash := by
  intro a b
  have ha : a.specifics.Fits := by constructor <;> decide +kernel
  have hb : b.specifics.Fits := by constructor <;> decide +kernel
  have hne : a.specifics ≠ b.specifics := by decide
  have hdigest : Digest.Sha256.digest a.specifics.blob ≠ Digest.Sha256.digest b.specifics.blob := by
    decide +kernel
  obtain ⟨hbytes, -, hhash⟩ := payloadHash_identifies ha hb
  exact ⟨ha, hb, hne, fun h => hne (hbytes h),
    fun h => hne ((hhash fun h => absurd h hdigest).1 h)⟩

end EntityMetadata

end CredentialSync
