import CredentialSync.Proofs.Key
import CredentialSync.Toml.Number

/-!
# Integers of TOML are read back

The decimal form of an integer that fits 64 bits is a word that is neither a date nor a number with a
fraction (`isDatetime_ofInt`, `isFloat_ofInt`), so that its value is the integer (`value?_ofInt`). A word
is read with anything behind it that is no part of a word and no blank (`read?_append`).
-/

namespace CredentialSync.Toml.Number

open Text.Decimal

/-! ## 1. Digits -/

theorem digit?_of_isDigit {c : Char} (h : c.isDigit = true) : digit? 10 c = some (c.toNat - 48) := by
  simp only [Char.isDigit, Bool.and_eq_true, decide_eq_true_eq] at h
  have hle : c.toNat ≤ 57 := h.2
  have hrange : ('0' ≤ c && c ≤ '9') = true := by
    simp only [Bool.and_eq_true, decide_eq_true_eq]
    exact ⟨h.1, h.2⟩
  rw [digit?, if_pos hrange, Option.filter_some, if_pos (by rw [decide_eq_true_eq]; omega)]

theorem digitsFrom?_of_isDigit {cs : List Char} (hcs : ∀ c ∈ cs, c.isDigit = true) {after : Bool}
    (hafter : after = true ∨ cs ≠ []) :
    digitsFrom? 10 after cs = some (cs.map fun c => c.toNat - 48) := by
  induction cs generalizing after with
  | nil => simp [digitsFrom?, hafter.resolve_right (· rfl)]
  | cons c cs ih =>
    have hc := hcs c List.mem_cons_self
    have hunderscore : (c == '_') = false := by
      refine beq_eq_false_iff_ne.mpr ?_
      rintro rfl
      exact absurd hc (by decide)
    rw [digitsFrom?, hunderscore, digit?_of_isDigit hc, Option.bind_some,
      ih (fun c hc => hcs c (List.mem_cons_of_mem _ hc)) (.inl rfl)]
    rfl

theorem ofDigits_map (cs : List Char) :
    ofDigits 10 (cs.map fun c => c.toNat - 48) = Nat.ofDigitChars 10 cs 0 := by
  rw [ofDigits, List.foldl_map, Nat.ofDigitChars_eq_foldl]
  congr 1
  funext n c
  rw [Nat.mul_comm]
  rfl

theorem isDigit_toDigits (n : Nat) : ∀ c ∈ Nat.toDigits 10 n, c.isDigit = true :=
  fun _ hc => Nat.isDigit_of_mem_toDigits (by decide) (by decide) hc

/-- The digits of a number are read back. -/
theorem decimalDigits?_toDigits (n : Nat) :
    (decimalDigits? (Nat.toDigits 10 n)).map (ofDigits 10) = some n := by
  have hzero : ((Nat.toDigits 10 n).length > 1 && (Nat.toDigits 10 n).head? == some '0') = false := by
    rcases Nat.eq_zero_or_pos n with rfl | hpos
    · decide
    · rw [Bool.and_eq_false_iff]
      exact .inr (beq_eq_false_iff_ne.mpr (head?_toDigits hpos))
  rw [decimalDigits?, hzero, if_neg Bool.false_ne_true, digits?,
    digitsFrom?_of_isDigit (isDigit_toDigits n) (.inr Nat.toDigits_ne_nil), Option.map_some,
    ofDigits_map, Nat.ofDigitChars_ten_toDigits]

/-! ## 2. The decimal form of an integer -/

/-- The sign of an integer. -/
def signOf (n : Int) : List Char := if n < 0 then ['-'] else []

theorem toList_ofInt (n : Int) : (ofInt n).toList = signOf n ++ Nat.toDigits 10 n.natAbs := by
  cases n with
  | ofNat n => simp [ofInt, ofNat, signOf]
  | negSucc n => simp [ofInt, ofNat, signOf, Int.natAbs_negSucc, Int.negSucc_lt_zero]

theorem toDigits_eq_cons (n : Nat) :
    ∃ c cs, Nat.toDigits 10 n = c :: cs ∧ c.isDigit = true ∧ ∀ x ∈ cs, x.isDigit = true := by
  have hdigits := isDigit_toDigits n
  cases hcs : Nat.toDigits 10 n with
  | nil => exact absurd hcs Nat.toDigits_ne_nil
  | cons c cs =>
    rw [hcs, List.forall_mem_cons] at hdigits
    exact ⟨c, cs, rfl, hdigits⟩

theorem isDigit_of_mem_tail (n : Int) : ∀ c ∈ (ofInt n).toList.tail, c.isDigit = true := by
  intro c hc
  rw [toList_ofInt, signOf] at hc
  split at hc
  · exact isDigit_toDigits _ c hc
  · exact isDigit_toDigits _ c (List.mem_of_mem_tail hc)

theorem splitSign_ofInt (n : Int) :
    splitSign (ofInt n).toList = (decide (n < 0), Nat.toDigits 10 n.natAbs) := by
  rw [toList_ofInt, signOf]
  split
  · next h => simp [splitSign, h]
  · next h =>
    obtain ⟨c, cs, hcs, hc, -⟩ := toDigits_eq_cons n.natAbs
    rw [List.nil_append, hcs, splitSign]
    · simp [h]
    · rintro _ ⟨⟩
      exact absurd hc (by decide)
    · rintro _ ⟨⟩
      exact absurd hc (by decide)

theorem unbounded?_ofInt (n : Int) : unbounded? (ofInt n).toList = some n := by
  have hsigned : ((decimalDigits? (Nat.toDigits 10 n.natAbs)).map fun ds =>
      if decide (n < 0) then -(ofDigits 10 ds : Int) else (ofDigits 10 ds : Int)) = some n := by
    have hread := decimalDigits?_toDigits n.natAbs
    rw [Option.map_eq_some_iff] at hread ⊢
    obtain ⟨ds, hds, hvalue⟩ := hread
    refine ⟨ds, hds, ?_⟩
    rw [hvalue]
    by_cases hneg : n < 0
    · rw [if_pos (decide_eq_true hneg)]
      omega
    · rw [if_neg (by simpa using hneg)]
      omega
  have hbase (x : Char) (hx : x.isDigit ≠ true) (cs : List Char) :
      (ofInt n).toList ≠ '0' :: x :: cs := fun h => by
    have hmem := isDigit_of_mem_tail n x (by rw [h]; exact List.mem_cons_self)
    exact hx hmem
  rw [unbounded?]
  · rw [splitSign_ofInt]
    exact hsigned
  · exact fun cs => hbase _ (by decide) cs
  · exact fun cs => hbase _ (by decide) cs
  · exact fun cs => hbase _ (by decide) cs

theorem integer?_ofInt {n : Int}
    (h : Int64.minValue.toInt ≤ n ∧ n ≤ Int64.maxValue.toInt) : integer? (ofInt n).toList = some n := by
  rw [integer?, unbounded?_ofInt, Option.filter_some, if_pos]
  simpa only [Bool.and_eq_true, decide_eq_true_eq] using h

/-! ## 3. Neither a date nor a number with a fraction -/

theorem eq_drop_of_twoDigits? {lo hi n : Nat} {cs rest : List Char}
    (h : twoDigits? lo hi cs = some (n, rest)) : rest = cs.drop 2 := by
  rw [twoDigits?.eq_def] at h
  split at h
  · split at h
    · dsimp only at h
      split at h
      · exact (Prod.mk.inj (Option.some.inj h)).2.symm
      · cases h
    · cases h
  · cases h

theorem mem_of_sign? {c : Char} {cs rest : List Char} (h : sign? c cs = some rest) : c ∈ cs := by
  cases cs with
  | nil => cases h
  | cons x cs =>
    rw [sign?] at h
    split at h
    · next hx =>
      rw [beq_iff_eq.mp hx]
      exact List.mem_cons_self
    · cases h

theorem mem_tail_of_mem_drop {c : Char} {cs : List Char} {k : Nat} (h : c ∈ cs.drop (k + 1)) :
    c ∈ cs.tail := by
  rw [← List.drop_tail] at h
  exact List.mem_of_mem_drop h

/-- A time has a colon. -/
theorem colon_of_time? {cs rest : List Char} (h : time? cs = some rest) : ':' ∈ cs.tail := by
  simp only [time?, Option.bind_eq_bind, Option.bind_eq_some_iff] at h
  obtain ⟨⟨_, behind⟩, htwo, _, hsign, -⟩ := h
  have hmem := mem_of_sign? hsign
  rw [eq_drop_of_twoDigits? htwo] at hmem
  exact mem_tail_of_mem_drop hmem

/-- A date has a hyphen. -/
theorem hyphen_of_date? {cs rest : List Char} (h : date? cs = some rest) : '-' ∈ cs.tail := by
  simp only [date?, Option.bind_eq_bind, Option.bind_eq_some_iff] at h
  obtain ⟨⟨_, behind⟩, hcentury, ⟨_, behind'⟩, hyear, _, hsign, -⟩ := h
  have hmem := mem_of_sign? hsign
  rw [eq_drop_of_twoDigits? hyear, eq_drop_of_twoDigits? hcentury, List.drop_drop] at hmem
  exact mem_tail_of_mem_drop hmem

theorem isDatetime_ofInt (n : Int) : isDatetime (ofInt n).toList = false := by
  have htime : time? (ofInt n).toList = none := Option.eq_none_iff_forall_not_mem.mpr fun _ h =>
    absurd (isDigit_of_mem_tail n _ (colon_of_time? h)) (by decide)
  have hdate : date? (ofInt n).toList = none := Option.eq_none_iff_forall_not_mem.mpr fun _ h =>
    absurd (isDigit_of_mem_tail n _ (hyphen_of_date? h)) (by decide)
  rw [isDatetime, isTime, htime, hdate]
  rfl

theorem isFloat_ofInt (n : Int) : isFloat (ofInt n).toList = false := by
  obtain ⟨c, cs, hcs, hc, -⟩ := toDigits_eq_cons n.natAbs
  have hword (x : Char) (xs : List Char) (hx : x.isDigit ≠ true) :
      (Nat.toDigits 10 n.natAbs == x :: xs) = false := by
    rw [hcs, beq_eq_false_iff_ne]
    rintro ⟨⟩
    exact hx hc
  have hwhole : ∀ c ∈ Nat.toDigits 10 n.natAbs, (c == '_' || ('0' ≤ c && c ≤ '9')) = true := by
    intro c hc
    have hdigit := isDigit_toDigits _ c hc
    simp only [Char.isDigit, Bool.and_eq_true, decide_eq_true_eq] at hdigit
    simp only [Bool.or_eq_true, Bool.and_eq_true, decide_eq_true_eq]
    exact .inr ⟨hdigit.1, hdigit.2⟩
  have hsplit : splitWhole (Nat.toDigits 10 n.natAbs) = (Nat.toDigits 10 n.natAbs, []) := by
    have htake := @List.takeWhile_append_of_pos _ _ _ [] hwhole
    have hdrop := @List.dropWhile_append_of_pos _ _ _ [] hwhole
    rw [List.append_nil] at htake hdrop
    exact Prod.ext (htake.trans (List.append_nil _)) hdrop
  rw [isFloat, splitSign_ofInt]
  simp only [hword 'i' ['n', 'f'] (by decide), hword 'n' ['a', 'n'] (by decide), hsplit, fraction?,
    Bool.or_false, Bool.false_eq_true, if_false]
  cases decimalDigits? (Nat.toDigits 10 n.natAbs) <;> rfl

/-! ## 4. Words -/

theorem isWordChar_ofInt (n : Int) : ∀ c ∈ (ofInt n).toList, isWordChar c = true := by
  intro c hc
  rw [toList_ofInt, List.mem_append, signOf] at hc
  rcases hc with hc | hc
  · split at hc
    · rw [List.mem_singleton.mp hc]
      rfl
    · cases hc
  · simp [isWordChar, Char.isAlphanum, isDigit_toDigits _ c hc]

/-- **The decimal form of an integer has the integer as its value.** -/
theorem value?_ofInt {n : Int} (h : Int64.minValue.toInt ≤ n ∧ n ≤ Int64.maxValue.toInt) :
    value? (ofInt n).toList = some (.integer n) := by
  have hword (x y : Char) (xs : List Char) (hy : y.isDigit ≠ true) :
      ((ofInt n).toList == x :: y :: xs) = false := by
    refine beq_eq_false_iff_ne.mpr fun h => hy (isDigit_of_mem_tail n y ?_)
    rw [h]
    exact List.mem_cons_self
  rw [value?, hword 't' 'r' _ (by decide), hword 'f' 'a' _ (by decide), isDatetime_ofInt,
    isFloat_ofInt, integer?_ofInt h]
  rfl

/-- A word is read up to the first character that is no part of it. -/
theorem read?_append {word : List Char} (hword : ∀ c ∈ word, isWordChar c = true) {c : Char}
    (hc : isWordChar c = false) (hblank : c ≠ ' ') (rest : List Char) :
    read? (word ++ c :: rest) = (value? word).map (·, c :: rest) := by
  have htake : (word ++ c :: rest).takeWhile isWordChar = word := by
    rw [List.takeWhile_append_of_pos hword, List.takeWhile_cons_of_neg (by simp [hc]),
      List.append_nil]
  have hdrop : (word ++ c :: rest).dropWhile isWordChar = c :: rest := by
    rw [List.dropWhile_append_of_pos hword, List.dropWhile_cons_of_neg (by simp [hc])]
  rw [read?, htake, hdrop]
  split
  · next heq => exact absurd (List.cons.inj heq).1 hblank
  · rfl

end CredentialSync.Toml.Number
