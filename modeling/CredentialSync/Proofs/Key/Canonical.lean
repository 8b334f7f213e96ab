import CredentialSync.Proofs.Key

/-!
# Storage keys are the canonical spelling

A text is read as a primary key exactly if it is the spelling that `PrimaryKey.storageKey` gives to
a positive key. Which texts that leaves out is said in two ways: as the texts that no positive key
is written as, and by what is wrong with them (`StorageKey.Malformed`): no character at all, a
leading zero, a character other than an ASCII digit, or a number above the greatest key.

* `StorageKey.primaryKey_eq_ok`: what is read, and as which key.
* `StorageKey.primaryKey_eq_error`: what is refused; the error carries the text as it is.
* `StorageKey.primaryKey_canonical` puts both together with the two laws of the round trip.
-/

namespace CredentialSync

/-! ## 1. Which texts are numbers -/

namespace Text.Decimal

theorem isDigit_of_digit? {c : Char} {d : Nat} (h : digit? c = some d) : c.isDigit = true := by
  unfold digit? at h
  split at h
  · next hc =>
    simp only [Bool.and_eq_true, decide_eq_true_eq] at hc
    simp only [Char.isDigit, Bool.and_eq_true, decide_eq_true_eq]
    exact ⟨hc.1, hc.2⟩
  · cases h

/-- Digits, and nothing else, are read onto what was read before them. -/
theorem readFrom_eq_some {cs : List Char} {acc n : Nat} :
    readFrom acc cs = some n ↔
      (∀ c ∈ cs, c.isDigit = true) ∧ Nat.ofDigitChars 10 cs acc = n := by
  constructor
  · intro h
    have hdigits : ∀ c ∈ cs, c.isDigit = true := by
      induction cs generalizing acc with
      | nil => exact fun c hc => absurd hc List.not_mem_nil
      | cons c cs ih =>
        rw [readFrom] at h
        obtain ⟨d, hd, hrest⟩ := Option.bind_eq_some_iff.1 h
        exact List.forall_mem_cons.2 ⟨isDigit_of_digit? hd, ih hrest⟩
    rw [readFrom_of_isDigit hdigits] at h
    exact ⟨hdigits, Option.some.inj h⟩
  · rintro ⟨hdigits, rfl⟩
    exact readFrom_of_isDigit hdigits acc

/-- The texts that write a number: one or more ASCII digits. -/
theorem digits?_eq_some {cs : List Char} {n : Nat} :
    digits? cs = some n ↔
      cs ≠ [] ∧ (∀ c ∈ cs, c.isDigit = true) ∧ Nat.ofDigitChars 10 cs 0 = n := by
  cases cs with
  | nil => simp only [digits?, reduceCtorEq, ne_eq, not_true_eq_false, false_and]
  | cons c cs =>
    have hread : digits? (c :: cs) = readFrom 0 (c :: cs) := rfl
    rw [hread, readFrom_eq_some, and_iff_right (List.cons_ne_nil c cs)]

end Text.Decimal

/-! ## 2. What is wrong with a text that is no storage key -/

/-- What can be wrong with a text that is read as a primary key. -/
inductive StorageKey.Malformed (key : StorageKey) : Prop where
  /-- There is nothing to read. -/
  | empty (h : key.toList = [])
  /-- The first digit is a zero: a spelling that is not the shortest, or no positive number. -/
  | leadingZero (h : key.toList.head? = some '0')
  /-- A sign, a blank, a digit of another script, or any other character. -/
  | character (c : Char) (h : c ∈ key.toList) (hc : c.isDigit = false)
  /-- The number does not fit into a key. -/
  | tooGreat (h : PrimaryKey.greatest.toInt < Nat.ofDigitChars 10 key.toList 0)

/-- A text that is read has none of the faults. -/
theorem StorageKey.not_malformed {key : StorageKey} {k : PrimaryKey}
    (h : key.primaryKey? = some k) : ¬key.Malformed := by
  unfold StorageKey.primaryKey? at h
  split at h
  · cases h
  · next hzero =>
    split at h
    · next n hn =>
      split at h
      · next hle =>
        obtain ⟨hne, hdigits, hvalue⟩ := Text.Decimal.digits?_eq_some.1 hn
        rintro (hempty | hhead | ⟨c, hc, hnot⟩ | hgreat)
        · exact hne hempty
        · exact hzero (beq_iff_eq.2 hhead)
        · rw [hdigits c hc] at hnot
          cases hnot
        · omega
      · cases h
    · cases h

/-- A text with none of the faults is read. -/
theorem StorageKey.isSome_primaryKey? {key : StorageKey} (h : ¬key.Malformed) :
    key.primaryKey?.isSome = true := by
  have hzero : ¬(key.toList.head? == some '0') = true :=
    fun hhead => h (.leadingZero (beq_iff_eq.1 hhead))
  have hdigits : ∀ c ∈ key.toList, c.isDigit = true := by
    intro c hc
    cases hdigit : c.isDigit with
    | true => rfl
    | false => exact absurd (.character c hc hdigit) h
  have hnumber : Text.Decimal.digits? key.toList = some (Nat.ofDigitChars 10 key.toList 0) :=
    Text.Decimal.digits?_eq_some.2 ⟨fun hnil => h (.empty hnil), hdigits, rfl⟩
  have hfits : ((Nat.ofDigitChars 10 key.toList 0 : Nat) : Int) ≤ PrimaryKey.greatest.toInt :=
    Int.not_lt.1 fun hlt => h (.tooGreat hlt)
  rw [StorageKey.primaryKey?, if_neg hzero, hnumber]
  simp only [if_pos hfits, Option.isSome_some]

theorem StorageKey.malformed_iff {key : StorageKey} : key.Malformed ↔ key.primaryKey? = none := by
  constructor
  · intro h
    cases hkey : key.primaryKey? with
    | none => rfl
    | some k => exact absurd h (not_malformed hkey)
  · intro h
    apply Classical.byContradiction
    intro hnot
    have hsome := isSome_primaryKey? hnot
    rw [h] at hsome
    cases hsome

/-! ## 3. Reading accepts exactly what writing gives -/

theorem StorageKey.primaryKey?_eq_some {key : StorageKey} {k : PrimaryKey} :
    key.primaryKey? = some k ↔ 1 ≤ k ∧ k.storageKey = key := by
  have hpos : 1 ≤ k ↔ 0 < k := by
    rw [Int64.lt_iff_toInt_lt, Int64.le_iff_toInt_le]
    exact Iff.rfl
  rw [hpos]
  constructor
  · exact of_primaryKey?
  · rintro ⟨hpos, rfl⟩
    exact PrimaryKey.primaryKey?_storageKey.2 hpos

/-- **A text is read as a key exactly if the key is positive and written so.** -/
theorem StorageKey.primaryKey_eq_ok {key : StorageKey} {k : PrimaryKey} :
    key.primaryKey = .ok k ↔ 1 ≤ k ∧ k.storageKey = key := by
  rw [← primaryKey?_eq_some]
  unfold StorageKey.primaryKey
  cases key.primaryKey? <;> simp only [Except.ok.injEq, Option.some.injEq, reduceCtorEq]

/-- **A text that is not read is refused with an error that names it.** -/
theorem StorageKey.primaryKey_eq_error {key : StorageKey} :
    key.primaryKey = .error (.malformedKey key) ↔ key.Malformed := by
  rw [malformed_iff]
  unfold StorageKey.primaryKey
  cases key.primaryKey? <;> simp only [reduceCtorEq]

/-- No positive key is written as a text that has one of the faults, and every other text is the
storage key of one. -/
theorem StorageKey.malformed_iff_not_written {key : StorageKey} :
    key.Malformed ↔ ¬∃ k : PrimaryKey, 1 ≤ k ∧ k.storageKey = key := by
  rw [malformed_iff, Option.eq_none_iff_forall_not_mem, not_exists]
  exact forall_congr' fun k => not_congr primaryKey?_eq_some

/-- **Storage keys are read back canonically.** The texts that are read are the storage keys of the
positive keys, each as its key. All others (`StorageKey.Malformed`) are refused, with an error that
carries the text. Different keys of any sign have different storage keys, so that on positive keys
writing and reading undo each other. -/
theorem StorageKey.primaryKey_canonical :
    (∀ (key : StorageKey) (k : PrimaryKey),
      key.primaryKey = .ok k ↔ 1 ≤ k ∧ k.storageKey = key) ∧
    (∀ key : StorageKey, key.primaryKey = .error (.malformedKey key) ↔
      ¬∃ k : PrimaryKey, 1 ≤ k ∧ k.storageKey = key) ∧
    (∀ key : StorageKey, key.primaryKey = .error (.malformedKey key) ↔ key.Malformed) ∧
    (∀ k l : PrimaryKey, k.storageKey = l.storageKey ↔ k = l) ∧
    (∀ k : PrimaryKey, StorageKey.primaryKey k.storageKey = .ok k ↔ 1 ≤ k) :=
  ⟨fun _ _ => primaryKey_eq_ok,
    fun _ => primaryKey_eq_error.trans malformed_iff_not_written,
    fun _ => primaryKey_eq_error,
    fun _ _ => PrimaryKey.storageKey_inj,
    fun _ => primaryKey_eq_ok.trans (and_iff_left rfl)⟩

/-- The greatest key is the last that is read: the next number is refused. -/
example : StorageKey.primaryKey? "9223372036854775807" = some PrimaryKey.greatest ∧
    StorageKey.primaryKey? "9223372036854775808" = none := by
  decide +kernel

end CredentialSync
