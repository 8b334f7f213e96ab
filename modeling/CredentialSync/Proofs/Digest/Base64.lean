import CredentialSync.Digest.Base64

/-!
# Base64 texts

The bytes can be told from their Base64 text (`encode_injective`): the characters of a group of four give
back the three bytes of the group, and the padding says how many bytes a last group of fewer has.
-/

namespace CredentialSync.Digest.Base64

/-! ## 1. Characters -/

/-- The six-bit value of a character of the alphabet. -/
def value (c : Char) : Nat :=
  if c == '+' then 62
  else if c == '/' then 63
  else if c.toNat < 65 then c.toNat + 4
  else if c.toNat < 97 then c.toNat - 65
  else c.toNat - 71

theorem value_symbol {n : Nat} (h : n < 64) : value (symbol n) = n := by
  have hall : ∀ k : Fin 64, value (symbol k) = k := by decide
  exact hall ⟨n, h⟩

/-- The padding is no character of the alphabet. -/
theorem symbol_ne_padding {n : Nat} (h : n < 64) : symbol n ≠ '=' := by
  have hall : ∀ k : Fin 64, symbol k ≠ '=' := by decide
  exact hall ⟨n, h⟩

theorem symbol_inj {m n : Nat} (hm : m < 64) (hn : n < 64) (h : symbol m = symbol n) : m = n := by
  rw [← value_symbol hm, h, value_symbol hn]

/-! ## 2. Groups -/

section Groups

variable {a a' b b' c c' : UInt8} {m n : Nat}

/-- The first two characters of a group give back its first byte, and what stands behind it. -/
theorem first_inj (h₁ : symbol (a.toNat / 4) = symbol (a'.toNat / 4))
    (h₂ : symbol (a.toNat % 4 * 16 + m) = symbol (a'.toNat % 4 * 16 + n)) (hm : m < 16)
    (hn : n < 16) : a = a' ∧ m = n := by
  have ha := a.toNat_lt
  have ha' := a'.toNat_lt
  have hhigh := symbol_inj (by omega) (by omega) h₁
  have hlow := symbol_inj (by omega) (by omega) h₂
  exact ⟨UInt8.toNat_inj.1 (by omega), by omega⟩

/-- With its upper half known, the third character of a group gives back the second byte. -/
theorem second_inj (hupper : b.toNat / 16 = b'.toNat / 16)
    (h₃ : symbol (b.toNat % 16 * 4 + m) = symbol (b'.toNat % 16 * 4 + n)) (hm : m < 4)
    (hn : n < 4) : b = b' ∧ m = n := by
  have hlow := symbol_inj (by omega) (by omega) h₃
  exact ⟨UInt8.toNat_inj.1 (by omega), by omega⟩

/-- With its upper bits known, the last character of a group gives back the third byte. -/
theorem third_inj (hupper : c.toNat / 64 = c'.toNat / 64)
    (h₄ : symbol (c.toNat % 64) = symbol (c'.toNat % 64)) : c = c' := by
  have hlow := symbol_inj (by omega) (by omega) h₄
  exact UInt8.toNat_inj.1 (by omega)

/-- The characters of a whole group give back its bytes. -/
theorem group_inj (h₁ : symbol (a.toNat / 4) = symbol (a'.toNat / 4))
    (h₂ : symbol (a.toNat % 4 * 16 + b.toNat / 16) = symbol (a'.toNat % 4 * 16 + b'.toNat / 16))
    (h₃ : symbol (b.toNat % 16 * 4 + c.toNat / 64) = symbol (b'.toNat % 16 * 4 + c'.toNat / 64))
    (h₄ : symbol (c.toNat % 64) = symbol (c'.toNat % 64)) : a = a' ∧ b = b' ∧ c = c' := by
  have hb := b.toNat_lt
  have hb' := b'.toNat_lt
  have hc := c.toNat_lt
  have hc' := c'.toNat_lt
  obtain ⟨ha, hb⟩ := first_inj h₁ h₂ (by omega) (by omega)
  obtain ⟨hb, hc⟩ := second_inj hb h₃ (by omega) (by omega)
  exact ⟨ha, hb, third_inj hc h₄⟩

end Groups

/-! ## 3. Texts -/

theorem eq_nil_of_encodeBytes {ys : List UInt8} (h : encodeBytes ys = []) : ys = [] := by
  unfold encodeBytes at h
  split at h
  · rfl
  all_goals cases h

theorem encodeBytes_injective {xs ys : List UInt8} (h : encodeBytes xs = encodeBytes ys) : xs = ys := by
  -- two groups of different lengths differ in their last character, or in the one before it
  induction xs using encodeBytes.induct generalizing ys with
  | case1 => exact (eq_nil_of_encodeBytes h.symm).symm
  | case2 a =>
    match ys, h with
    | [a'], h =>
      simp only [encodeBytes, List.cons.injEq, and_true] at h
      have hfirst := first_inj (m := 0) (n := 0) h.1 h.2 (by decide) (by decide)
      rw [hfirst.1]
    | [a', b'], h =>
      simp only [encodeBytes, List.cons.injEq] at h
      exact absurd h.2.2.1.symm (symbol_ne_padding (by omega))
    | a' :: b' :: c' :: rest, h =>
      simp only [encodeBytes, List.cons.injEq] at h
      exact absurd h.2.2.2.1.symm (symbol_ne_padding (by omega))
  | case3 a b =>
    have hb := b.toNat_lt
    match ys, h with
    | [a'], h =>
      simp only [encodeBytes, List.cons.injEq] at h
      exact absurd h.2.2.1 (symbol_ne_padding (by omega))
    | [a', b'], h =>
      have hb' := b'.toNat_lt
      simp only [encodeBytes, List.cons.injEq, and_true] at h
      obtain ⟨rfl, hupper⟩ := first_inj h.1 h.2.1 (by omega) (by omega)
      have hsecond := second_inj (m := 0) (n := 0) hupper h.2.2 (by decide) (by decide)
      rw [hsecond.1]
    | a' :: b' :: c' :: rest, h =>
      simp only [encodeBytes, List.cons.injEq] at h
      exact absurd h.2.2.2.1.symm (symbol_ne_padding (by omega))
  | case4 a b c rest ih =>
    match ys, h with
    | [a'], h =>
      simp only [encodeBytes, List.cons.injEq] at h
      exact absurd h.2.2.2.1 (symbol_ne_padding (by omega))
    | [a', b'], h =>
      simp only [encodeBytes, List.cons.injEq] at h
      exact absurd h.2.2.2.1 (symbol_ne_padding (by omega))
    | a' :: b' :: c' :: rest', h =>
      simp only [encodeBytes, List.cons.injEq] at h
      obtain ⟨h₁, h₂, h₃, h₄, hrest⟩ := h
      obtain ⟨rfl, rfl, rfl⟩ := group_inj h₁ h₂ h₃ h₄
      rw [ih hrest]

/-- **Different bytes have different Base64 texts.** -/
theorem encode_injective {xs ys : List UInt8} (h : encode xs = encode ys) : xs = ys :=
  encodeBytes_injective (String.ofList_injective h)

end CredentialSync.Digest.Base64
