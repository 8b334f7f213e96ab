import CredentialSync.Proofs.Text.Utf8
import CredentialSync.Text.Percent

/-!
# Percent escapes

An escaped text consists of ASCII characters that are not to be escaped, of percent signs and of
hexadecimal digits (`mem_encode`). If the percent sign itself is escaped, the text is read back from
its escaped form (`decode_encode`), so different texts have different escaped forms.

`Escaped` says how such a text is put together: a character that is to be escaped stands in it only as
the percent sign of an escape (`Escaped.of_split`).
-/

namespace CredentialSync.Text.Percent

open Utf8 (asciiByte)

/-! ## 1. Reading back -/

theorem hexValue?_hexDigit : ∀ n < 16, hexValue? (asciiByte (hexDigit n)) = some (UInt8.ofNat n) := by
  decide

/-- The byte is read back from its two digits. -/
theorem escaped?_digits (b : UInt8) :
    escaped? (asciiByte (hexDigit (b.toNat / 16))) (asciiByte (hexDigit (b.toNat % 16))) = some b := by
  have hb := b.toNat_lt
  have hsum : UInt8.ofNat (b.toNat / 16) * 16 + UInt8.ofNat (b.toNat % 16) = b := by
    refine UInt8.toNat_inj.1 ?_
    simp
    omega
  rw [escaped?, hexValue?_hexDigit _ (by omega), hexValue?_hexDigit _ (by omega)]
  exact congrArg some hsum

theorem decode_cons_of_ne {b : UInt8} (h : b ≠ 37) (rest : List UInt8) :
    decode (b :: rest) = b :: decode rest := by
  match rest with
  | [] | [_] => rfl
  | _ :: _ :: _ => simp [decode, h]

theorem decode_escapeByte (b : UInt8) (rest : List UInt8) :
    decode ((escapeByte b).map asciiByte ++ rest) = b :: decode rest := by
  have hpercent : (asciiByte '%' == 37) = true := by decide
  simp only [escapeByte, List.map_cons, List.map_nil, List.cons_append, List.nil_append, decode,
    hpercent, if_true, escaped?_digits]

theorem toNat_ofNat {b : UInt8} (h : b < 0x80) : (Char.ofNat b.toNat).toNat = b.toNat := by
  have hb : b.toNat < 128 := UInt8.lt_iff_toNat_lt.1 h
  have hvalid : b.toNat.isValidChar := .inl (by omega)
  rw [Char.ofNat, dif_pos hvalid]
  rfl

variable {escaped : Char → Bool}

theorem decode_encodeByte (hpercent : escaped '%' = true) (b : UInt8) (rest : List UInt8) :
    decode ((encodeByte escaped b).map asciiByte ++ rest) = b :: decode rest := by
  unfold encodeByte
  split
  · next hplain =>
    obtain ⟨hsmall, hkept⟩ : b < 0x80 ∧ escaped (Char.ofNat b.toNat) = false := by simpa using hplain
    have hbyte : asciiByte (Char.ofNat b.toNat) = b := by
      rw [asciiByte, toNat_ofNat hsmall, UInt8.ofNat_toNat]
    have hne : b ≠ 37 := by
      rintro rfl
      rw [show Char.ofNat (37 : UInt8).toNat = '%' from rfl, hpercent] at hkept
      cases hkept
    rw [List.map_singleton, hbyte, List.singleton_append, decode_cons_of_ne hne]
  · exact decode_escapeByte b rest

theorem decode_encodeBytes (hpercent : escaped '%' = true) (bs : List UInt8) :
    decode ((bs.flatMap (encodeByte escaped)).map asciiByte) = bs := by
  induction bs with
  | nil => rfl
  | cons b bs ih =>
    rw [List.flatMap_cons, List.map_append, decode_encodeByte hpercent, ih]

/-! ## 2. The characters of an escaped text -/

theorem toNat_hexDigit : ∀ n < 16, (hexDigit n).toNat < 128 := by decide

/-- **What an escaped text consists of.** -/
theorem mem_encode {s : String} {c : Char} (h : c ∈ encode escaped s) :
    c.toNat < 128 ∧ (escaped c = false ∨ c = '%' ∨ ∃ n < 16, c = hexDigit n) := by
  obtain ⟨b, -, hc⟩ := List.mem_flatMap.1 h
  have hb := b.toNat_lt
  unfold encodeByte at hc
  split at hc
  · next hplain =>
    obtain ⟨hsmall, hkept⟩ : b < 0x80 ∧ escaped (Char.ofNat b.toNat) = false := by simpa using hplain
    obtain rfl := List.mem_singleton.1 hc
    rw [toNat_ofNat hsmall]
    exact ⟨UInt8.lt_iff_toNat_lt.1 hsmall, .inl hkept⟩
  · simp only [escapeByte, List.mem_cons, List.not_mem_nil, or_false] at hc
    rcases hc with rfl | rfl | rfl
    · exact ⟨by decide, .inr (.inl rfl)⟩
    · exact ⟨toNat_hexDigit _ (by omega), .inr (.inr ⟨_, by omega, rfl⟩)⟩
    · exact ⟨toNat_hexDigit _ (by omega), .inr (.inr ⟨_, by omega, rfl⟩)⟩

/-- **A text is read back from its escaped form.** -/
theorem decode_encode (hpercent : escaped '%' = true) (s : String) :
    decode (Utf8.encode (String.ofList (encode escaped s))) = Utf8.encode s := by
  rw [Utf8.encode_of_ascii fun c hc => (mem_encode hc).1]
  exact decode_encodeBytes hpercent _

/-! ## 3. How an escaped text is put together -/

/-- The hexadecimal digits in upper case. -/
def isHexDigit (c : Char) : Bool := ('0' ≤ c && c ≤ '9') || ('A' ≤ c && c ≤ 'F')

theorem isHexDigit_hexDigit : ∀ n < 16, isHexDigit (hexDigit n) = true := by decide

/-- Characters that are kept, and percent signs with two hexadecimal digits each. -/
inductive Escaped (escaped : Char → Bool) : List Char → Prop where
  | nil : Escaped escaped []
  | kept {c : Char} {cs : List Char} (hascii : c.toNat < 128) (hkept : escaped c = false)
      (h : Escaped escaped cs) : Escaped escaped (c :: cs)
  | escape {a b : Char} {cs : List Char} (ha : isHexDigit a = true) (hb : isHexDigit b = true)
      (h : Escaped escaped cs) : Escaped escaped ('%' :: a :: b :: cs)

theorem Escaped.encodeByte {cs : List Char} (h : Escaped escaped cs) (b : UInt8) :
    Escaped escaped (encodeByte escaped b ++ cs) := by
  have hb := b.toNat_lt
  unfold Percent.encodeByte
  split
  · next hplain =>
    obtain ⟨hsmall, hkept⟩ : b < 0x80 ∧ escaped (Char.ofNat b.toNat) = false := by simpa using hplain
    refine .kept ?_ hkept h
    rw [toNat_ofNat hsmall]
    exact UInt8.lt_iff_toNat_lt.1 hsmall
  · exact .escape (isHexDigit_hexDigit _ (by omega)) (isHexDigit_hexDigit _ (by omega)) h

/-- **An escaped text is put together so.** -/
theorem escaped_encode (escaped : Char → Bool) (s : String) : Escaped escaped (encode escaped s) := by
  unfold encode
  induction Utf8.encode s with
  | nil => exact .nil
  | cons b bs ih =>
    rw [List.flatMap_cons]
    exact ih.encodeByte b

/-- **A character that is to be escaped stands in an escaped text only as the percent sign of an
escape**, unless the hexadecimal digits are to be escaped themselves. -/
theorem Escaped.of_split {cs front rest : List Char} {c : Char}
    (hhex : ∀ c, isHexDigit c = true → escaped c = false) (h : Escaped escaped cs)
    (hsplit : cs = front ++ c :: rest) (hc : escaped c = true) :
    c = '%' ∧ ∃ a b rest', rest = a :: b :: rest' ∧ isHexDigit a = true ∧ isHexDigit b = true := by
  -- A character of the front that is passed over is kept, or one of the three of an escape.
  have hdigit : ∀ {a : Char}, isHexDigit a = true → a ≠ c := by
    rintro a ha rfl
    rw [hhex a ha] at hc
    cases hc
  induction h generalizing front with
  | nil => cases front <;> cases hsplit
  | @kept d cs _ hkept _ ih =>
    cases front with
    | nil =>
      obtain ⟨rfl, -⟩ := List.cons.inj hsplit
      rw [hkept] at hc
      cases hc
    | cons _ front => exact ih (List.cons.inj hsplit).2
  | @escape a b cs ha hb _ ih =>
    match front with
    | [] =>
      obtain ⟨rfl, rfl⟩ := List.cons.inj hsplit
      exact ⟨rfl, a, b, cs, rfl, ha, hb⟩
    | [_] => exact absurd (List.cons.inj (List.cons.inj hsplit).2).1 (hdigit ha)
    | [_, _] =>
      exact absurd (List.cons.inj (List.cons.inj (List.cons.inj hsplit).2).2).1 (hdigit hb)
    | _ :: _ :: _ :: front => exact ih (List.cons.inj (List.cons.inj (List.cons.inj hsplit).2).2).2

end CredentialSync.Text.Percent
