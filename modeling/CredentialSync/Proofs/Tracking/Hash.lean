import CredentialSync.Credential.Tag
import CredentialSync.Metadata.Layout
import CredentialSync.Proofs.Blob

/-!
# Tag hashes in stored metadata

A database keeps the metadata of a record as bytes, with the tag hash in front. A tag hash consists
of 44 ASCII characters, so it is read back whatever follows it (`hash?_blob`), and it is what the
whole metadata shows if that can be read (`hash?_of_ofBlob`).
-/

namespace CredentialSync

/-! ## 1. Characters of a hash -/

namespace Digest

/-- Every Base64 character is ASCII. -/
theorem Base64.toNat_symbol (n : Nat) : (Base64.symbol n).toNat < 128 := by
  by_cases h : n < 64
  · have hall : ∀ k : Fin 64, (Base64.symbol k).toNat < 128 := by decide
    exact hall ⟨n, h⟩
  · have h₁ : ¬ n < 26 := by omega
    have h₂ : ¬ n < 52 := by omega
    have h₃ : ¬ n < 62 := by omega
    have h₄ : ¬ n = 62 := by omega
    simp only [Base64.symbol, h₁, h₂, h₃, h₄, if_false, beq_iff_eq]
    decide

theorem Base64.ascii_encodeBytes (bytes : List UInt8) :
    ∀ c ∈ Base64.encodeBytes bytes, c.toNat < 128 := by
  fun_induction Base64.encodeBytes bytes with
  | case1 => simp
  | case2 a => simp [Base64.toNat_symbol]
  | case3 a b => simp [Base64.toNat_symbol]
  | case4 a b c rest ih => simpa [Base64.toNat_symbol] using ih

theorem Base64.length_encodeBytes (bytes : List UInt8) :
    (Base64.encodeBytes bytes).length = 4 * ((bytes.length + 2) / 3) := by
  fun_induction Base64.encodeBytes bytes with
  | case1 => rfl
  | case2 a => simp
  | case3 a b => simp
  | case4 a b c rest ih =>
    simp only [List.length_cons, ih]
    omega

theorem Sha256.length_digest (message : List UInt8) : (Sha256.digest message).length = 32 := by
  simp [Sha256.digest, Sha256.bytesOf]

end Digest

/-- The length of a tag hash can be written in front of it. -/
theorem length_tagHash (tag : String) :
    (Text.Utf8.encode (tagHash tag)).length < Blob.lengthLimit := by
  have hchars : (tagHash tag).toList = Digest.Base64.encodeBytes
      (Digest.Sha256.digest (Text.Utf8.encode (recordType ++ tag))) := by
    rw [tagHash, Digest.Base64.encode, String.toList_ofList]
  have hascii : ∀ c ∈ (tagHash tag).toList, c.toNat < 128 := by
    rw [hchars]
    exact Digest.Base64.ascii_encodeBytes _
  rw [Text.Utf8.encode, Text.Utf8.flatMap_of_ascii hascii, List.length_map, hchars,
    Digest.Base64.length_encodeBytes, Digest.Sha256.length_digest]
  decide

/-! ## 2. Stored metadata -/

namespace EntityMetadata

/-- The tag hash at the front of the bytes of a record's metadata. -/
def hash? (bytes : List UInt8) : Option String := (Blob.read Blob.Reader.text bytes).toOption

/-- Metadata that can be read as a whole shows this tag hash. -/
theorem hash?_of_ofBlob {bytes : List UInt8} {m : EntityMetadata} (h : ofBlob bytes = .ok m) :
    hash? bytes = some m.tagHash := by
  unfold ofBlob Blob.read at h
  obtain ⟨x, hreader, rfl⟩ := Blob.ok_of_map h
  obtain ⟨y₁, htext, h₁⟩ := Blob.Reader.ok_of_bind hreader
  obtain ⟨y₂, -, h₂⟩ := Blob.Reader.ok_of_bind h₁
  obtain ⟨y₃, -, h₃⟩ := Blob.Reader.ok_of_bind h₂
  obtain ⟨y₄, -, h₄⟩ := Blob.Reader.ok_of_bind h₃
  obtain ⟨y₅, -, h₅⟩ := Blob.Reader.ok_of_bind h₄
  obtain ⟨y₆, -, h₆⟩ := Blob.Reader.ok_of_bind h₅
  obtain ⟨y₇, -, h₇⟩ := Blob.Reader.ok_of_bind h₆
  obtain ⟨y₈, -, h₈⟩ := Blob.Reader.ok_of_bind h₇
  obtain ⟨y₉, -, h₉⟩ := Blob.Reader.ok_of_bind h₈
  cases h₉
  unfold hash? Blob.read
  rw [htext]
  rfl

/-- The hash of a client tag is read back. -/
theorem hash?_blob {m : EntityMetadata} {tag : String} (h : m.tagHash = CredentialSync.tagHash tag) :
    hash? m.blob = some m.tagHash := by
  unfold hash? blob
  simp only [List.append_assoc]
  rw [(Blob.Reader.accepts_text (h ▸ length_tagHash tag)).read]
  rfl

end EntityMetadata

end CredentialSync
