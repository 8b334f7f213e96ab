import CredentialSync.Key

/-!
# Storage keys name one primary key

* Different primary keys, of either sign, have different storage keys (`storageKey_injective`).
* A text that is read as a primary key is its storage key (`storageKey_of_primaryKey?`).
* The storage key of a primary key is read back exactly if the key is positive
  (`primaryKey?_storageKey`).
-/

namespace CredentialSync

namespace Text.Decimal

theorem ofNat_injective {m n : Nat} (h : ofNat m = ofNat n) : m = n := by
  have hdigits : Nat.toDigits 10 m = Nat.toDigits 10 n := String.ofList_injective h
  have hread := congrArg (Nat.ofDigitChars 10 · 0) hdigits
  simpa only [Nat.ofDigitChars_ten_toDigits] using hread

/-- A minus sign begins no number without a sign. -/
theorem ofNat_ne_minus (m : Nat) (s : String) : ofNat m ≠ "-" ++ s := by
  intro h
  have hmem : '-' ∈ Nat.toDigits 10 m := by
    have : (ofNat m).toList = ("-" ++ s).toList := congrArg String.toList h
    rw [ofNat, String.toList_ofList, String.toList_append] at this
    rw [this]
    exact List.mem_append_left _ (List.mem_singleton.2 rfl)
  have hdigit := Nat.isDigit_of_mem_toDigits (by decide) (by decide) hmem
  revert hdigit
  decide

theorem ofInt_injective {a b : Int} (h : ofInt a = ofInt b) : a = b := by
  cases a with
  | ofNat m =>
    cases b with
    | ofNat n => exact congrArg Int.ofNat (ofNat_injective h)
    | negSucc n => exact absurd h (ofNat_ne_minus m _)
  | negSucc m =>
    cases b with
    | ofNat n => exact absurd h.symm (ofNat_ne_minus n _)
    | negSucc n =>
      have : ofNat (m + 1) = ofNat (n + 1) := (String.append_right_inj "-").1 h
      exact congrArg Int.negSucc (Nat.succ.inj (ofNat_injective this))

/-- An ASCII digit is the character of its value. -/
theorem digitChar_of_digit? {c : Char} {d : Nat} (h : digit? c = some d) :
    d < 10 ∧ d.digitChar = c := by
  unfold digit? at h
  split at h
  · next hc =>
    simp only [Bool.and_eq_true, decide_eq_true_eq] at hc
    have hlow : 48 ≤ c.toNat := hc.1
    have hhigh : c.toNat ≤ 57 := hc.2
    cases h
    have hall : ∀ k : Fin 10, (k : Nat).digitChar = Char.ofNat (48 + k) := by decide
    have hd := hall ⟨c.toNat - 48, by omega⟩
    refine ⟨by omega, hd.trans ?_⟩
    show Char.ofNat (48 + (c.toNat - 48)) = c
    rw [Nat.add_sub_cancel' hlow, Char.ofNat_toNat]
  · cases h

/-- Reading on from a positive number appends the digits that were read. -/
theorem toDigits_of_readFrom {cs : List Char} {acc n : Nat} (hacc : 0 < acc)
    (h : readFrom acc cs = some n) : Nat.toDigits 10 n = Nat.toDigits 10 acc ++ cs := by
  induction cs generalizing acc with
  | nil =>
    cases h
    exact (List.append_nil _).symm
  | cons c cs ih =>
    rw [readFrom] at h
    obtain ⟨d, hd, hrest⟩ := Option.bind_eq_some_iff.1 h
    obtain ⟨hlt, hchar⟩ := digitChar_of_digit? hd
    have happend : Nat.toDigits 10 (acc * 10 + d) = Nat.toDigits 10 acc ++ [c] := by
      rw [Nat.mul_comm, ← Nat.toDigits_append_toDigits (by decide) hacc hlt,
        Nat.toDigits_of_lt_base hlt, hchar]
    rw [ih (by omega) hrest, happend, List.append_assoc]
    rfl

/-- Digits without a leading zero are the decimal form of their number. -/
theorem ofNat_of_digits? {cs : List Char} {n : Nat} (hzero : cs.head? ≠ some '0')
    (h : digits? cs = some n) : 0 < n ∧ ofNat n = String.ofList cs := by
  cases cs with
  | nil => cases h
  | cons c cs =>
    have hread : readFrom 0 (c :: cs) = some n := h
    rw [readFrom] at hread
    obtain ⟨d, hd, hrest⟩ := Option.bind_eq_some_iff.1 hread
    obtain ⟨hlt, hchar⟩ := digitChar_of_digit? hd
    have hpos : 0 < d := by
      rcases Nat.eq_zero_or_pos d with rfl | hpos
      · exact absurd (congrArg some hchar.symm) hzero
      · exact hpos
    rw [Nat.zero_mul, Nat.zero_add] at hrest
    have hdigits := toDigits_of_readFrom hpos hrest
    rw [Nat.toDigits_of_lt_base hlt, hchar] at hdigits
    refine ⟨?_, congrArg String.ofList hdigits⟩
    rcases Nat.eq_zero_or_pos n with rfl | hn
    · rw [Nat.toDigits_zero] at hdigits
      exact absurd (by rw [List.singleton_append] at hdigits; cases hdigits; rfl) hzero
    · exact hn

theorem digit?_of_isDigit {c : Char} (h : c.isDigit = true) : digit? c = some (c.toNat - 48) := by
  simp only [Char.isDigit, Bool.and_eq_true, decide_eq_true_eq] at h
  rw [digit?, if_pos]
  simp only [Bool.and_eq_true, decide_eq_true_eq]
  exact ⟨h.1, h.2⟩

/-- Digits are read onto what was read before them. -/
theorem readFrom_of_isDigit {cs : List Char} (h : ∀ c ∈ cs, c.isDigit = true) (acc : Nat) :
    readFrom acc cs = some (Nat.ofDigitChars 10 cs acc) := by
  induction cs generalizing acc with
  | nil => rfl
  | cons c cs ih =>
    rw [readFrom, digit?_of_isDigit (h c List.mem_cons_self), Option.bind_some,
      ih fun c hc => h c (List.mem_cons_of_mem _ hc), Nat.mul_comm]
    rfl

/-- The decimal form of a number is read back. -/
theorem digits?_ofNat (n : Nat) : digits? (ofNat n).toList = some n := by
  have hdigits : ∀ c ∈ Nat.toDigits 10 n, c.isDigit = true := fun c hc =>
    Nat.isDigit_of_mem_toDigits (by decide) (by decide) hc
  have hread : readFrom 0 (Nat.toDigits 10 n) = some n := by
    rw [readFrom_of_isDigit hdigits, Nat.ofDigitChars_ten_toDigits]
  rw [ofNat, String.toList_ofList]
  cases hcs : Nat.toDigits 10 n with
  | nil => exact absurd hcs Nat.toDigits_ne_nil
  | cons c cs =>
    rw [hcs] at hread
    exact hread

/-- The decimal form of a positive number has no leading zero. -/
theorem head?_toDigits {n : Nat} (h : 0 < n) : (Nat.toDigits 10 n).head? ≠ some '0' := by
  induction n using Nat.strongRecOn with
  | _ n ih =>
    rw [Nat.toDigits_eq_if (by decide)]
    split
    · next hlt =>
      have hall : ∀ k : Fin 10, 0 < (k : Nat) → (k : Nat).digitChar ≠ '0' := by decide
      rw [List.head?_cons, ne_eq, Option.some.injEq]
      exact hall ⟨n, hlt⟩ h
    · next hge =>
      have hfront := ih (n / 10) (by omega) (by omega)
      cases hcs : Nat.toDigits 10 (n / 10) with
      | nil => exact absurd hcs Nat.toDigits_ne_nil
      | cons c cs =>
        rw [hcs] at hfront
        exact hfront

end Text.Decimal

/-- Different primary keys have different storage keys. -/
theorem PrimaryKey.storageKey_injective {k l : PrimaryKey} (h : k.storageKey = l.storageKey) :
    k = l :=
  Int64.toInt_inj.1 (Text.Decimal.ofInt_injective h)

@[simp] theorem PrimaryKey.storageKey_inj {k l : PrimaryKey} :
    k.storageKey = l.storageKey ↔ k = l :=
  ⟨storageKey_injective, congrArg _⟩

/-- A text that is read as a primary key is the storage key of a positive one. -/
theorem StorageKey.of_primaryKey? {key : StorageKey} {k : PrimaryKey}
    (h : key.primaryKey? = some k) : 0 < k ∧ k.storageKey = key := by
  unfold StorageKey.primaryKey? at h
  split at h
  · cases h
  · next hzero =>
    split at h
    · next n hn =>
      split at h
      · next hle =>
        cases h
        obtain ⟨hpos, htext⟩ := Text.Decimal.ofNat_of_digits? (by simpa using hzero) hn
        have hmax : PrimaryKey.greatest.toInt = 2 ^ 63 - 1 := by decide
        have hint : (Int64.ofNat n).toInt = (n : Int) := by
          rw [Int64.toInt_ofNat_of_lt (by omega)]
        refine ⟨?_, ?_⟩
        · rw [Int64.lt_iff_toInt_lt, hint]
          exact Int.natCast_pos.2 hpos
        · show Text.Decimal.ofInt (Int64.ofNat n).toInt = key
          rw [hint]
          exact htext.trans String.ofList_toList
      · cases h
    · cases h

/-- **A text that is read as a primary key is its storage key.** -/
theorem StorageKey.storageKey_of_primaryKey? {key : StorageKey} {k : PrimaryKey}
    (h : key.primaryKey? = some k) : k.storageKey = key := (of_primaryKey? h).2

/-- **The storage key of a primary key is read back exactly if the key is positive.** -/
theorem PrimaryKey.primaryKey?_storageKey {k : PrimaryKey} :
    StorageKey.primaryKey? k.storageKey = some k ↔ 0 < k := by
  constructor
  · exact fun h => (StorageKey.of_primaryKey? h).1
  · intro hpos
    rw [Int64.lt_iff_toInt_lt] at hpos
    obtain ⟨n, hn⟩ := Int.eq_ofNat_of_zero_le (Int.le_of_lt hpos)
    have htext : k.storageKey = Text.Decimal.ofNat n := by
      rw [storageKey, hn]
      rfl
    have hzero : (k.storageKey.toList.head? == some '0') = false := by
      rw [htext, Text.Decimal.ofNat, String.toList_ofList, beq_eq_false_iff_ne]
      exact Text.Decimal.head?_toDigits (by rw [hn] at hpos; exact Int.natCast_pos.1 hpos)
    have hle : (n : Int) ≤ greatest.toInt := hn ▸ Int64.toInt_le k
    rw [StorageKey.primaryKey?, if_neg (by rw [hzero]; exact Bool.false_ne_true), htext,
      Text.Decimal.digits?_ofNat]
    simp only [if_pos hle, Option.some.injEq]
    rw [← Int64.toInt_inj, hn, Int64.toInt_ofNat_of_lt]
    have hmax : greatest.toInt = 2 ^ 63 - 1 := by decide
    omega

end CredentialSync
