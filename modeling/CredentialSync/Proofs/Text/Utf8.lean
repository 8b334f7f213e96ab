import CredentialSync.Text.Utf8

/-!
# Text as bytes

Different texts have different bytes (`encode_injective`), and every text is read back as it was
(`decode_encode`). ASCII text is written with one byte for each character (`encode_of_ascii`).

A character takes one to four bytes. `decodeFrom_one` to `decodeFrom_four` read one sequence of each
length, and `decodeFrom_encodeChar` finds that the sequence of a character reads as that character.
-/

namespace CredentialSync.Text.Utf8

theorem encode_injective {s t : String} (h : encode s = encode t) : s = t := by
  have hbytes : s.toList.utf8Encode = t.toList.utf8Encode := congrArg List.toByteArray h
  have hread := congrArg ByteArray.utf8Decode? hbytes
  rw [List.utf8Decode?_utf8Encode, List.utf8Decode?_utf8Encode] at hread
  exact String.toList_inj.1 (List.toArray_inj (Option.some.inj hread))

/-! ## 1. ASCII text -/

/-- The byte of an ASCII character. -/
def asciiByte (c : Char) : UInt8 := UInt8.ofNat c.toNat

theorem encodeChar_of_ascii {c : Char} (h : c.toNat < 128) :
    String.utf8EncodeChar c = [asciiByte c] := by
  have hle : c.val.toNat ≤ 127 := Nat.lt_succ_iff.1 h
  rw [String.utf8EncodeChar, if_pos hle]
  rfl

theorem flatMap_of_ascii {cs : List Char} (h : ∀ c ∈ cs, c.toNat < 128) :
    cs.flatMap String.utf8EncodeChar = cs.map asciiByte := by
  induction cs with
  | nil => rfl
  | cons c cs ih =>
    rw [List.flatMap_cons, encodeChar_of_ascii (h c List.mem_cons_self),
      ih fun c' hc' => h c' (List.mem_cons_of_mem _ hc')]
    rfl

theorem encode_of_ascii {cs : List Char} (h : ∀ c ∈ cs, c.toNat < 128) :
    encode (String.ofList cs) = cs.map asciiByte := by
  rw [encode, String.toList_ofList, flatMap_of_ascii h]

/-! ## 2. Sequences of bytes -/

section Sequences

variable {a b c d : UInt8} {rest : List UInt8}

theorem isTail_iff : isTail b = true ↔ 0x80 ≤ b.toNat ∧ b.toNat ≤ 0xBF := by
  simp [isTail, UInt8.le_iff_toNat_le]

theorem second3_iff : second3 a b = true ↔
    (a.toNat = 0xE0 ∧ 0xA0 ≤ b.toNat ∧ b.toNat ≤ 0xBF) ∨
      (a.toNat = 0xED ∧ 0x80 ≤ b.toNat ∧ b.toNat ≤ 0x9F) ∨
      (a.toNat ≠ 0xE0 ∧ a.toNat ≠ 0xED ∧ isTail b = true) := by
  have hE0 : a = 0xE0 ↔ a.toNat = 0xE0 := UInt8.toNat_inj.symm
  have hED : a = 0xED ↔ a.toNat = 0xED := UInt8.toNat_inj.symm
  unfold second3
  simp only [beq_iff_eq, hE0, hED]
  split
  · simp [UInt8.le_iff_toNat_le]
    omega
  · next hne =>
    split
    · simp [UInt8.le_iff_toNat_le]
      omega
    · next hne' => simp [hne, hne']

theorem second4_iff : second4 a b = true ↔
    (a.toNat = 0xF0 ∧ 0x90 ≤ b.toNat ∧ b.toNat ≤ 0xBF) ∨
      (a.toNat = 0xF4 ∧ 0x80 ≤ b.toNat ∧ b.toNat ≤ 0x8F) ∨
      (a.toNat ≠ 0xF0 ∧ a.toNat ≠ 0xF4 ∧ isTail b = true) := by
  have hF0 : a = 0xF0 ↔ a.toNat = 0xF0 := UInt8.toNat_inj.symm
  have hF4 : a = 0xF4 ↔ a.toNat = 0xF4 := UInt8.toNat_inj.symm
  unfold second4
  simp only [beq_iff_eq, hF0, hF4]
  split
  · simp [UInt8.le_iff_toNat_le]
    omega
  · next hne =>
    split
    · simp [UInt8.le_iff_toNat_le]
      omega
    · next hne' => simp [hne, hne']

theorem decodeFrom_one (i : Nat) (ha : a.toNat < 0x80) :
    decodeFrom i (a :: rest) = (decodeFrom (i + 1) rest).map (Char.ofNat a.toNat :: ·) := by
  have hone : a < 0x80 := UInt8.lt_iff_toNat_lt.2 ha
  rw [decodeFrom.eq_def]
  simp only [hone, if_true]

theorem decodeFrom_two (i : Nat) (ha : 0xC2 ≤ a.toNat ∧ a.toNat ≤ 0xDF) (hb : isTail b = true) :
    decodeFrom i (a :: b :: rest) =
      (decodeFrom (i + 2) rest).map (Char.ofNat (a.toNat % 32 * 64 + tailBits b) :: ·) := by
  have hone : ¬ a.toNat < 0x80 := by omega
  rw [decodeFrom.eq_def]
  simp [UInt8.lt_iff_toNat_lt, UInt8.le_iff_toNat_le, hone, ha, hb]

theorem decodeFrom_three (i : Nat) (ha : 0xE0 ≤ a.toNat ∧ a.toNat ≤ 0xEF) (hb : second3 a b = true)
    (hc : isTail c = true) :
    decodeFrom i (a :: b :: c :: rest) = (decodeFrom (i + 3) rest).map
      (Char.ofNat (a.toNat % 16 * 4096 + tailBits b * 64 + tailBits c) :: ·) := by
  have hone : ¬ a.toNat < 0x80 := by omega
  have htwo : ¬ (0xC2 ≤ a.toNat ∧ a.toNat ≤ 0xDF) := by omega
  rw [decodeFrom.eq_def]
  simp only [UInt8.lt_iff_toNat_lt, UInt8.le_iff_toNat_le]
  simp [hone, ha, hb, hc]
  intro hlow hhigh
  omega

theorem decodeFrom_four (i : Nat) (ha : 0xF0 ≤ a.toNat ∧ a.toNat ≤ 0xF4) (hb : second4 a b = true)
    (hc : isTail c = true) (hd : isTail d = true) :
    decodeFrom i (a :: b :: c :: d :: rest) = (decodeFrom (i + 4) rest).map
      (Char.ofNat (a.toNat % 8 * 262144 + tailBits b * 4096 + tailBits c * 64 + tailBits d) :: ·) := by
  have hone : ¬ a.toNat < 0x80 := by omega
  have htwo : ¬ (0xC2 ≤ a.toNat ∧ a.toNat ≤ 0xDF) := by omega
  have hthree : ¬ (0xE0 ≤ a.toNat ∧ a.toNat ≤ 0xEF) := by omega
  rw [decodeFrom.eq_def]
  simp only [UInt8.lt_iff_toNat_lt, UInt8.le_iff_toNat_le]
  simp [hone, ha, hb, hc, hd]
  rw [if_neg (by omega), if_neg (by omega)]

end Sequences

/-! ## 3. Reading text back -/

theorem toNat_byte {n : Nat} (h : n < 256) : (UInt8.ofNat n).toNat = n := by
  rw [UInt8.toNat_ofNat']
  exact Nat.mod_eq_of_lt h

/-- A tail byte holds six bits of a number. -/
theorem isTail_byte (n : Nat) : isTail (UInt8.ofNat (n % 64 + 128)) = true := by
  rw [isTail_iff, toNat_byte (by omega)]
  omega

theorem tailBits_byte (n : Nat) : tailBits (UInt8.ofNat (n % 64 + 128)) = n % 64 := by
  rw [tailBits, toNat_byte (by omega)]
  omega

/-- **A character is read back, whatever follows it.** -/
theorem decodeFrom_encodeChar (c : Char) (i : Nat) (rest : List UInt8) :
    ∃ j, decodeFrom i (String.utf8EncodeChar c ++ rest) = (decodeFrom j rest).map (c :: ·) := by
  -- A character is no surrogate: this rules out the second bytes that `second3` and `second4` refuse.
  have hvalid : c.toNat < 0xD800 ∨ 0xDFFF < c.toNat ∧ c.toNat < 0x110000 := c.valid
  have hback : Char.ofNat c.toNat = c := Char.ofNat_toNat c
  have hcode : c.val.toNat = c.toNat := rfl
  generalize c.toNat = v at hvalid hback hcode
  have htail := isTail_byte
  simp only [String.utf8EncodeChar, hcode]
  by_cases hone : v ≤ 0x7F
  · have ha : (UInt8.ofNat v).toNat = v := toNat_byte (by omega)
    refine ⟨i + 1, ?_⟩
    rw [if_pos hone, List.singleton_append, decodeFrom_one i (by omega), ha, hback]
  by_cases htwo : v ≤ 0x7FF
  · have ha : (UInt8.ofNat (v / 64 % 32 + 192)).toNat = v / 64 % 32 + 192 := toNat_byte (by omega)
    have hv : (v / 64 % 32 + 192) % 32 * 64 + v % 64 = v := by omega
    refine ⟨i + 2, ?_⟩
    rw [if_neg hone, if_pos htwo]
    show decodeFrom i (_ :: _ :: rest) = _
    rw [decodeFrom_two i (by omega) (htail v), ha, tailBits_byte, hv, hback]
  by_cases hthree : v ≤ 0xFFFF
  · have ha : (UInt8.ofNat (v / 4096 % 16 + 224)).toNat = v / 4096 % 16 + 224 :=
      toNat_byte (by omega)
    have hb : (UInt8.ofNat (v / 64 % 64 + 128)).toNat = v / 64 % 64 + 128 := toNat_byte (by omega)
    have hsecond : second3 (UInt8.ofNat (v / 4096 % 16 + 224)) (UInt8.ofNat (v / 64 % 64 + 128)) =
        true := by
      rw [second3_iff, ha, hb, isTail_iff, hb]
      omega
    have hv : (v / 4096 % 16 + 224) % 16 * 4096 + v / 64 % 64 * 64 + v % 64 = v := by omega
    refine ⟨i + 3, ?_⟩
    rw [if_neg hone, if_neg htwo, if_pos hthree]
    show decodeFrom i (_ :: _ :: _ :: rest) = _
    rw [decodeFrom_three i (by omega) hsecond (htail v), ha, tailBits_byte, tailBits_byte, hv, hback]
  · have ha : (UInt8.ofNat (v / 262144 % 8 + 240)).toNat = v / 262144 % 8 + 240 :=
      toNat_byte (by omega)
    have hb : (UInt8.ofNat (v / 4096 % 64 + 128)).toNat = v / 4096 % 64 + 128 :=
      toNat_byte (by omega)
    have hsecond : second4 (UInt8.ofNat (v / 262144 % 8 + 240)) (UInt8.ofNat (v / 4096 % 64 + 128)) =
        true := by
      rw [second4_iff, ha, hb, isTail_iff, hb]
      omega
    have hv : (v / 262144 % 8 + 240) % 8 * 262144 + v / 4096 % 64 * 4096 + v / 64 % 64 * 64 + v % 64
        = v := by omega
    refine ⟨i + 4, ?_⟩
    rw [if_neg hone, if_neg htwo, if_neg hthree]
    show decodeFrom i (_ :: _ :: _ :: _ :: rest) = _
    rw [decodeFrom_four i (by omega) hsecond (htail _) (htail v), ha, tailBits_byte, tailBits_byte,
      tailBits_byte, hv, hback]

theorem decodeFrom_encode (cs : List Char) (i : Nat) :
    decodeFrom i (cs.flatMap String.utf8EncodeChar) = .ok cs := by
  induction cs generalizing i with
  | nil => rfl
  | cons c cs ih =>
    obtain ⟨j, hj⟩ := decodeFrom_encodeChar c i (cs.flatMap String.utf8EncodeChar)
    rw [List.flatMap_cons, hj, ih j]
    rfl

/-- **A text is read back.** -/
theorem decode_encode (s : String) : decode (encode s) = .ok s := by
  rw [decode, encode, decodeFrom_encode]
  exact congrArg Except.ok String.ofList_toList

end CredentialSync.Text.Utf8
