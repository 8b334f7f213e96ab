import CredentialSync.Toml.Quoted

/-!
# Strings of TOML are read back

Whatever text is written between quotes is read back as it was, in each of the four forms
(`read?_write`). What stands behind the closing quotes must not begin with another quote, since up to
two quotes in front of three belong to the text.

* An escape reads as the character that it stands for (`basic_escape`, `multiline_escape`).
* Over several lines, `"` may stand twice in a row without an escape. The reader is in step with the
  writer if the quotes just before are counted in (`multiline_escapedLines`).
* Between `'` there are no escapes, and no more than two of them may stand in a row
  (`multilineLiteral_append`).
-/

namespace CredentialSync.Toml.Quoted

/-! ## 1. Escapes -/

theorem hex?_hexDigit {n : Nat} (h : n < 16) : hex? (hexDigit n) = some n := by
  have hall : ∀ k : Fin 16, hex? (hexDigit k) = some (k : Nat) := by decide
  exact hall ⟨n, h⟩

/-- Two hexadecimal digits write an ASCII character. -/
theorem charOfHex?_digits {c : Char} (h : c.toNat < 128) :
    charOfHex? ['0', '0', hexDigit (c.toNat / 16), hexDigit (c.toNat % 16)] = some c := by
  have hzero : hex? '0' = some 0 := by decide
  have hdigits : ['0', '0', hexDigit (c.toNat / 16), hexDigit (c.toNat % 16)].mapM hex? =
      some [0, 0, c.toNat / 16, c.toNat % 16] := by
    simp [List.mapM_cons, hzero, hex?_hexDigit (show c.toNat / 16 < 16 by omega),
      hex?_hexDigit (show c.toNat % 16 < 16 by omega)]
  have hsum : ((0 * 16 + 0) * 16 + c.toNat / 16) * 16 + c.toNat % 16 = c.toNat := by omega
  have hvalid : c.toNat.isValidChar := .inl (by omega)
  rw [charOfHex?, hdigits]
  simp only [List.foldl_cons, List.foldl_nil, Nat.zero_mul, Nat.zero_add] at hsum ⊢
  rw [hsum, if_pos hvalid, Char.ofNat_toNat]

/-- An escape is a backslash with a letter, or with the code point of its character. -/
inductive Escape (c : Char) : List Char → Prop where
  | letter {x : Char} (hmeans : simpleEscape? x = some c) : Escape c ['\\', x]
  | code {a b : Char} (hmeans : charOfHex? ['0', '0', a, b] = some c) :
      Escape c ['\\', 'u', '0', '0', a, b]

theorem Escape.eq_cons {c : Char} {unit : List Char} (h : Escape c unit) :
    ∃ tail, unit = '\\' :: tail := by
  cases h <;> exact ⟨_, rfl⟩

/-- The characters whose escape is a letter. -/
def lettered : List Char := ['\x08', '\t', '\n', '\x0c', '\r', '\\']

theorem escape?_of_notMem {c : Char} (h : c ∉ lettered) :
    escape? c = if c.toNat < 0x20 || c.toNat == 0x7f then
      some ['\\', 'u', '0', '0', hexDigit (c.toNat / 16), hexDigit (c.toNat % 16)] else none := by
  simp only [lettered, List.mem_cons, List.not_mem_nil, or_false, not_or] at h
  obtain ⟨h₁, h₂, h₃, h₄, h₅, h₆⟩ := h
  simp only [escape?, beq_iff_eq, if_neg h₁, if_neg h₂, if_neg h₃, if_neg h₄, if_neg h₅, if_neg h₆]

theorem escape_of_escape? {c : Char} {unit : List Char} (h : escape? c = some unit) :
    Escape c unit := by
  by_cases hc : c ∈ lettered
  · simp only [lettered, List.mem_cons, List.not_mem_nil, or_false] at hc
    rcases hc with rfl | rfl | rfl | rfl | rfl | rfl
    all_goals
      cases h
      exact .letter rfl
  · rw [escape?_of_notMem hc] at h
    split at h
    · next hcode =>
      cases h
      simp only [Bool.or_eq_true, decide_eq_true_eq, beq_iff_eq] at hcode
      exact .code (charOfHex?_digits (by omega))
    · cases h

/-- A quote is escaped by a backslash. -/
theorem escape_quote : Escape '"' ['\\', '"'] := .letter rfl

/-- A character without an escape stands for itself. -/
theorem plain_of_escape? {c : Char} (h : escape? c = none) :
    isPlain c = true ∧ c ≠ '\\' ∧ c ≠ '\n' ∧ c ≠ '\r' := by
  have hc : c ∉ lettered := fun hc => by
    simp only [lettered, List.mem_cons, List.not_mem_nil, or_false] at hc
    rcases hc with rfl | rfl | rfl | rfl | rfl | rfl <;> cases h
  rw [escape?_of_notMem hc] at h
  simp only [lettered, List.mem_cons, List.not_mem_nil, or_false, not_or] at hc
  obtain ⟨-, -, hline, -, hreturn, hslash⟩ := hc
  refine ⟨?_, hslash, hline, hreturn⟩
  split at h
  · cases h
  · next hcode =>
    simp only [Bool.or_eq_true, decide_eq_true_eq, beq_iff_eq, not_or, Nat.not_lt] at hcode
    simp [isPlain, hcode.1, hcode.2]

theorem basic_escape {c : Char} {unit : List Char} (h : Escape c unit) (rest : List Char) :
    basic (unit ++ rest) = (basic rest).map (prepend c) := by
  cases h with
  | @letter x hmeans =>
    have hu : x ≠ 'u' := by
      rintro rfl
      exact absurd hmeans (by simp [simpleEscape?])
    have hU : x ≠ 'U' := by
      rintro rfl
      exact absurd hmeans (by simp [simpleEscape?])
    show basic ('\\' :: x :: rest) = _
    rw [basic, hmeans, Option.bind_some]
    · exact fun _ _ _ _ _ h => absurd h hu
    · exact fun _ _ _ _ _ _ _ _ _ h => absurd h hU
  | @code a b hmeans =>
    show basic ('\\' :: 'u' :: '0' :: '0' :: a :: b :: rest) = _
    rw [basic, hmeans, Option.bind_some]

theorem multiline_escape {c : Char} {unit : List Char} (h : Escape c unit) (rest : List Char) :
    multilineBasic .text (unit ++ rest) = (multilineBasic .text rest).map (prepend c) := by
  cases h with
  | @letter x hmeans =>
    have hx : ∀ y ∈ ['u', 'U', '\n', ' ', '\t', '\r'], x ≠ y := by
      rintro y hy rfl
      revert hmeans
      simp only [List.mem_cons, List.not_mem_nil, or_false] at hy
      rcases hy with rfl | rfl | rfl | rfl | rfl | rfl <;> simp [simpleEscape?]
    simp only [List.mem_cons, List.not_mem_nil, or_false, forall_eq_or_imp, forall_eq] at hx
    obtain ⟨hu, hU, hline, hblank, htab, hreturn⟩ := hx
    show multilineBasic .text ('\\' :: x :: rest) = _
    rw [multilineBasic]
    · simp [hline, hblank, htab, hreturn, hmeans]
    · exact fun _ _ _ _ _ h => absurd h hu
    · exact fun _ _ _ _ _ _ _ _ _ h => absurd h hU
    · exact nofun
  | @code a b hmeans =>
    show multilineBasic .text ('\\' :: 'u' :: '0' :: '0' :: a :: b :: rest) = _
    rw [multilineBasic, hmeans, Option.bind_some]
    exact nofun

/-! ## 2. One line -/

theorem basic_plain {c : Char} (hplain : isPlain c = true) (hslash : c ≠ '\\') (hquote : c ≠ '"')
    (rest : List Char) : basic (c :: rest) = (basic rest).map (prepend c) := by
  rw [basic]
  · simp [hplain, hslash]
  · exact hquote
  · exact fun _ _ _ _ _ h => absurd h hslash
  · exact fun _ _ _ _ _ _ _ _ _ h => absurd h hslash
  · exact fun _ _ h => absurd h hslash

theorem basic_escaped (cs rest : List Char) :
    basic (escaped cs ++ '"' :: rest) = some (cs, rest) := by
  induction cs with
  | nil => rfl
  | cons c cs ih =>
    rw [escaped, List.append_assoc]
    by_cases hquote : c = '"'
    · rw [if_pos (beq_iff_eq.mpr hquote), basic_escape escape_quote, ih, hquote]
      rfl
    · rw [if_neg (mt beq_iff_eq.mp hquote)]
      cases hescape : escape? c with
      | some unit =>
        rw [Option.getD_some, basic_escape (escape_of_escape? hescape), ih]
        rfl
      | none =>
        obtain ⟨hplain, hslash, -⟩ := plain_of_escape? hescape
        rw [Option.getD_none, List.singleton_append, basic_plain hplain hslash hquote, ih]
        rfl

theorem literal_append {cs : List Char} (hplain : ∀ c ∈ cs, isPlain c = true)
    (hfree : apostrophe ∉ cs) (rest : List Char) :
    literal (cs ++ apostrophe :: rest) = some (cs, rest) := by
  induction cs with
  | nil => rfl
  | cons c cs ih =>
    rw [List.forall_mem_cons] at hplain
    rw [List.mem_cons, not_or] at hfree
    rw [List.cons_append, literal, if_neg (by simpa using Ne.symm hfree.1), if_pos hplain.1,
      ih hplain.2 hfree.2]
    rfl

/-! ## 3. Several lines with escapes -/

theorem multiline_char {c : Char} {rest : List Char} (hplain : isPlain c = true ∨ c = '\n')
    (hslash : c ≠ '\\') (hquote : c = '"' → ∀ behind, rest ≠ '"' :: '"' :: behind) :
    multilineBasic .text (c :: rest) = (multilineBasic .text rest).map (prepend c) := by
  have hreturn : c ≠ '\r' := by
    rintro rfl
    revert hplain
    decide
  rw [multilineBasic]
  · rcases hplain with h | rfl <;> simp [*]
  · exact fun _ h => absurd h hreturn
  · exact fun _ hc h => hquote hc _ h
  · exact fun _ hc h => hquote hc _ h
  · exact fun _ hc h => hquote hc _ h
  · exact fun _ _ _ _ _ h => absurd h hslash
  · exact fun _ _ _ _ _ _ _ _ _ h => absurd h hslash
  · exact fun _ _ h => absurd h hslash
  · exact fun _ _ h => absurd h hreturn
  · exact nofun

/-- Up to two quotes in front of another character belong to the text. -/
theorem multiline_quotes {x : Char} (hx : x ≠ '"') (rest : List Char) {q : Nat} (hq : q ≤ 2) :
    multilineBasic .text (List.replicate q '"' ++ x :: rest) =
      (multilineBasic .text (x :: rest)).map fun (text, rest) =>
        (List.replicate q '"' ++ text, rest) := by
  have hplain : isPlain '"' = true ∨ '"' = '\n' := .inl (by decide)
  obtain rfl | rfl | rfl : q = 0 ∨ q = 1 ∨ q = 2 := by omega
  · simp
  · show multilineBasic .text ('"' :: x :: rest) = _
    rw [multiline_char hplain (by decide) (fun _ _ h => hx (List.cons.inj h).1)]
    rfl
  · show multilineBasic .text ('"' :: '"' :: x :: rest) = _
    rw [multiline_char hplain (by decide)
        (fun _ _ h => hx (List.cons.inj (List.cons.inj h).2).1),
      multiline_char hplain (by decide) (fun _ _ h => hx (List.cons.inj h).1), Option.map_map]
    rfl

/-- The closing quotes with up to two quotes of the text in front. -/
theorem multiline_close {rest : List Char} (hrest : rest.head? ≠ some '"') {q : Nat} (hq : q ≤ 2) :
    multilineBasic .text (List.replicate q '"' ++ '"' :: '"' :: '"' :: rest) =
      some (List.replicate q '"', rest) := by
  have hfour (behind : List Char) : rest ≠ '"' :: behind := by
    rintro rfl
    exact hrest rfl
  obtain rfl | rfl | rfl : q = 0 ∨ q = 1 ∨ q = 2 := by omega
  · show multilineBasic .text ('"' :: '"' :: '"' :: rest) = _
    rw [multilineBasic]
    · rfl
    · exact fun _ h => hfour _ h
    · exact fun _ h => hfour _ h
    · exact nofun
  · show multilineBasic .text ('"' :: '"' :: '"' :: '"' :: rest) = _
    rw [multilineBasic]
    · rfl
    · exact fun _ h => hfour _ h
    · exact nofun
  · show multilineBasic .text ('"' :: '"' :: '"' :: '"' :: '"' :: rest) = _
    rw [multilineBasic]
    · rfl
    · exact nofun

/-- One unit of the text with the quotes in front of it. -/
theorem multiline_unit {c x : Char} (hx : x ≠ '"') (unit : List Char)
    (hread : ∀ rest, multilineBasic .text (x :: unit ++ rest) =
      (multilineBasic .text rest).map (prepend c)) {q : Nat} (hq : q ≤ 2)
    {cs behind rest : List Char} (hbehind : multilineBasic .text behind = some (cs, rest)) :
    multilineBasic .text (List.replicate q '"' ++ (x :: unit ++ behind)) =
      some (List.replicate q '"' ++ c :: cs, rest) := by
  rw [List.cons_append, multiline_quotes hx _ hq, ← List.cons_append, hread, hbehind]
  rfl

/-- The reader is in step with the writer if the quotes just before are counted in. -/
theorem multiline_escapedLines (cs : List Char) {rest : List Char} (hrest : rest.head? ≠ some '"')
    {q : Nat} (hq : q ≤ 2) :
    multilineBasic .text (List.replicate q '"' ++ (escapedLines q cs ++ '"' :: '"' :: '"' :: rest)) =
      some (List.replicate q '"' ++ cs, rest) := by
  induction cs generalizing q with
  | nil => simpa [escapedLines] using multiline_close hrest hq
  | cons c cs ih =>
    have hbehind := @ih 0 (by omega)
    rw [List.replicate_zero, List.nil_append, List.nil_append] at hbehind
    rw [escapedLines]
    by_cases hquote : c = '"'
    · subst hquote
      rw [if_pos (beq_self_eq_true _)]
      by_cases htwo : q = 2
      · rw [if_pos (beq_iff_eq.mpr htwo)]
        exact multiline_unit (by decide) _ (multiline_escape escape_quote) hq hbehind
      · rw [if_neg (mt beq_iff_eq.mp htwo)]
        simpa [List.replicate_succ'] using @ih (q + 1) (by omega)
    rw [if_neg (mt beq_iff_eq.mp hquote)]
    by_cases hline : c = '\n'
    · subst hline
      rw [if_pos (beq_self_eq_true _)]
      exact multiline_unit (by decide) []
        (fun _ => multiline_char (.inr rfl) (by decide) (absurd · hquote)) hq hbehind
    rw [if_neg (mt beq_iff_eq.mp hline), List.append_assoc]
    cases hescape : escape? c with
    | some unit =>
      have hunit := escape_of_escape? hescape
      obtain ⟨tail, rfl⟩ := hunit.eq_cons
      exact multiline_unit (by decide) _ (multiline_escape hunit) hq hbehind
    | none =>
      obtain ⟨hplain, hslash, -⟩ := plain_of_escape? hescape
      exact multiline_unit hquote []
        (fun _ => multiline_char (.inl hplain) hslash (absurd · hquote)) hq hbehind

/-! ## 4. Several lines without escapes -/

theorem multilineLiteral_char {c : Char} {rest : List Char} (hplain : isPlain c = true ∨ c = '\n')
    (hfree : c = apostrophe → ∀ behind, rest ≠ apostrophe :: apostrophe :: behind) :
    multilineLiteral (c :: rest) = (multilineLiteral rest).map (prepend c) := by
  have hreturn : c ≠ '\r' := by
    rintro rfl
    revert hplain
    decide
  have hclosed (k : Nat) :
      (c == apostrophe && rest.take (k + 2) == List.replicate (k + 2) apostrophe) = false := by
    by_cases hc : c = apostrophe
    · refine Bool.and_eq_false_iff.mpr (.inr (beq_eq_false_iff_ne.mpr fun htake => ?_))
      match rest, htake with
      | a :: b :: behind, htake =>
        simp only [List.take_succ_cons, List.replicate_succ, List.cons.injEq] at htake
        exact hfree hc behind (by rw [htake.1, htake.2.1])
    · simp [hc]
  rw [multilineLiteral]
  · rw [hclosed 2, hclosed 1, hclosed 0]
    rcases hplain with h | rfl <;> simp [*]
  · exact fun _ h => absurd h hreturn

theorem multilineLiteral_quotes {x : Char} (hx : x ≠ apostrophe) (rest : List Char) {q : Nat}
    (hq : q ≤ 2) :
    multilineLiteral (List.replicate q apostrophe ++ x :: rest) =
      (multilineLiteral (x :: rest)).map fun (text, rest) =>
        (List.replicate q apostrophe ++ text, rest) := by
  have hplain : isPlain apostrophe = true ∨ apostrophe = '\n' := .inl (by decide)
  obtain rfl | rfl | rfl : q = 0 ∨ q = 1 ∨ q = 2 := by omega
  · simp
  · show multilineLiteral (apostrophe :: x :: rest) = _
    rw [multilineLiteral_char hplain (fun _ _ h => hx (List.cons.inj h).1)]
    rfl
  · show multilineLiteral (apostrophe :: apostrophe :: x :: rest) = _
    rw [multilineLiteral_char hplain (fun _ _ h => hx (List.cons.inj (List.cons.inj h).2).1),
      multilineLiteral_char hplain (fun _ _ h => hx (List.cons.inj h).1), Option.map_map]
    rfl

theorem multilineLiteral_close {rest : List Char} (hrest : rest.head? ≠ some apostrophe) {q : Nat}
    (hq : q ≤ 2) :
    multilineLiteral
        (List.replicate q apostrophe ++ apostrophe :: apostrophe :: apostrophe :: rest) =
      some (List.replicate q apostrophe, rest) := by
  have hfour (k : Nat) (tail : List Char) : rest.take (k + 1) ≠ apostrophe :: tail := by
    cases rest with
    | nil => exact nofun
    | cons c behind => exact fun h => hrest (congrArg some (List.cons.inj h).1)
  have hreturn : apostrophe ≠ '\r' := by decide
  obtain rfl | rfl | rfl : q = 0 ∨ q = 1 ∨ q = 2 := by omega
  · show multilineLiteral (apostrophe :: apostrophe :: apostrophe :: rest) = _
    rw [multilineLiteral]
    · simp [List.replicate_succ, hfour 0, hfour 1]
    · exact fun _ h => absurd h hreturn
  · show multilineLiteral (apostrophe :: apostrophe :: apostrophe :: apostrophe :: rest) = _
    rw [multilineLiteral]
    · simp [List.replicate_succ, hfour 0]
    · exact fun _ h => absurd h hreturn
  · show multilineLiteral
      (apostrophe :: apostrophe :: apostrophe :: apostrophe :: apostrophe :: rest) = _
    rw [multilineLiteral]
    · simp [List.replicate_succ]
    · exact fun _ h => absurd h hreturn

/-- How `longestRun` goes on with one more character. -/
def runStep (c : Char) : Nat × Nat → Char → Nat × Nat := fun (best, run) x =>
  if x == c then (max best (run + 1), run + 1) else (best, 0)

theorem longestRun_eq (c : Char) (cs : List Char) :
    longestRun c cs = (cs.foldl (runStep c) (0, 0)).1 := rfl

theorem le_foldl_runStep (c : Char) (cs : List Char) (best run : Nat) :
    best ≤ (cs.foldl (runStep c) (best, run)).1 := by
  induction cs generalizing best run with
  | nil => exact Nat.le_refl best
  | cons x cs ih =>
    rw [List.foldl_cons, runStep]
    split
    · exact Nat.le_trans (Nat.le_max_left _ _) (ih _ _)
    · exact ih _ _

theorem longestRun_pos {c : Char} {cs : List Char} (h : c ∈ cs) : 0 < longestRun c cs := by
  obtain ⟨before, behind, rfl⟩ := List.append_of_mem h
  rw [longestRun_eq, List.foldl_append, List.foldl_cons, runStep, if_pos (beq_self_eq_true _)]
  refine Nat.lt_of_lt_of_le ?_ (le_foldl_runStep _ _ _ _)
  exact Nat.lt_of_lt_of_le (Nat.succ_pos _) (Nat.le_max_right _ _)

/-- The reader finds the text if no more than two apostrophes stand in a row, those just before
counted in. -/
theorem multilineLiteral_append {cs : List Char}
    (hplain : ∀ c ∈ cs, isPlain c = true ∨ c = '\n') {rest : List Char}
    (hrest : rest.head? ≠ some apostrophe) {best q : Nat} (hq : q ≤ 2)
    (hruns : (cs.foldl (runStep apostrophe) (best, q)).1 ≤ 2) :
    multilineLiteral (List.replicate q apostrophe ++
        (cs ++ apostrophe :: apostrophe :: apostrophe :: rest)) =
      some (List.replicate q apostrophe ++ cs, rest) := by
  induction cs generalizing best q with
  | nil => simpa using multilineLiteral_close hrest hq
  | cons c cs ih =>
    rw [List.forall_mem_cons] at hplain
    rw [List.foldl_cons, runStep] at hruns
    by_cases hc : c = apostrophe
    · subst hc
      rw [if_pos (beq_self_eq_true _)] at hruns
      have hnext : q + 1 ≤ 2 :=
        Nat.le_trans (Nat.le_max_right best _) (Nat.le_trans (le_foldl_runStep _ _ _ _) hruns)
      simpa [List.replicate_succ'] using ih hplain.2 hnext hruns
    · rw [if_neg (mt beq_iff_eq.mp hc)] at hruns
      have hbehind := ih hplain.2 (Nat.zero_le 2) hruns
      rw [List.replicate_zero, List.nil_append, List.nil_append] at hbehind
      rw [List.cons_append, multilineLiteral_quotes hc _ hq,
        multilineLiteral_char hplain.1 (absurd · hc), hbehind]
      rfl

/-! ## 5. All forms -/

theorem formOf_literal {cs : List Char} (h : formOf cs = .literal) :
    (∀ c ∈ cs, isPlain c = true) ∧ apostrophe ∉ cs := by
  simp only [formOf] at h
  split at h
  · cases h
  split at h
  · next hlit =>
    simp only [Bool.and_eq_true, Bool.not_eq_true', List.all_eq_true, Bool.or_eq_true, beq_iff_eq,
      List.contains_eq_mem, decide_eq_false_iff_not] at hlit
    obtain ⟨⟨hplain, hlines⟩, hruns⟩ := hlit
    exact ⟨fun c hc => (hplain c hc).resolve_right fun h => hlines (h ▸ hc),
      fun hmem => Nat.ne_of_gt (longestRun_pos hmem) hruns⟩
  split at h
  · cases h
  split at h
  · cases h
  split at h <;> cases h

theorem formOf_multilineLiteral {cs : List Char} (h : formOf cs = .multilineLiteral) :
    (∀ c ∈ cs, isPlain c = true ∨ c = '\n') ∧ longestRun apostrophe cs ≤ 2 := by
  simp only [formOf] at h
  split at h
  · cases h
  split at h
  · cases h
  split at h
  · cases h
  split at h
  · next hlit =>
    simpa only [Bool.and_eq_true, List.all_eq_true, Bool.or_eq_true, beq_iff_eq,
      decide_eq_true_eq] using hlit
  split at h <;> cases h

/-- The line end behind the opening quotes is the one that the writer put there, if any. -/
theorem skipLineEnd_start {cs behind : List Char}
    (hreturn : behind.head? ≠ some '\r') (hline : '\n' ∉ cs → behind.head? ≠ some '\n') :
    skipLineEnd ((if cs.contains '\n' then ['\n'] else []) ++ behind) = behind := by
  split
  · rfl
  · next hlines =>
    have hline := hline (by simpa using hlines)
    rw [List.nil_append]
    match behind, hreturn, hline with
    | [], _, _ => rfl
    | c :: behind, hreturn, hline =>
      rw [skipLineEnd]
      · exact fun _ h => hline (congrArg List.head? h)
      · exact fun _ h => hreturn (congrArg List.head? h)

/-- An escape, or a character without one, begins neither with a line end nor with a quote of its
own. -/
theorem getD_escape? (c : Char) :
    ∃ x tail, (escape? c).getD [c] = x :: tail ∧ x ≠ '\r' ∧ x ≠ '\n' ∧ (x = '"' → c = '"') := by
  cases hescape : escape? c with
  | some unit =>
    obtain ⟨tail, rfl⟩ := (escape_of_escape? hescape).eq_cons
    exact ⟨_, tail, rfl, by decide, by decide, fun h => absurd h (by decide)⟩
  | none =>
    obtain ⟨-, -, hline, hreturn⟩ := plain_of_escape? hescape
    exact ⟨c, [], rfl, hreturn, hline, id⟩

theorem head?_escapedLines (q : Nat) (cs behind : List Char) :
    ∃ x tail, escapedLines q cs ++ '"' :: behind = x :: tail ∧ x ≠ '\r' ∧
      (x = '\n' → '\n' ∈ cs) := by
  cases cs with
  | nil => exact ⟨'"', behind, rfl, by decide, fun h => absurd h (by decide)⟩
  | cons c cs =>
    rw [escapedLines]
    split
    · split
      · exact ⟨_, _, rfl, by decide, fun h => absurd h (by decide)⟩
      · exact ⟨_, _, rfl, by decide, fun h => absurd h (by decide)⟩
    split
    · next hline =>
      exact ⟨_, _, rfl, by decide, fun _ => List.mem_cons.mpr (.inl (beq_iff_eq.mp hline).symm)⟩
    · obtain ⟨x, tail, hx, hreturn, hline, -⟩ := getD_escape? c
      rw [hx]
      exact ⟨x, _, rfl, hreturn, fun h => absurd h hline⟩

theorem escaped_ne_quotes (cs : List Char) {rest : List Char} (hrest : rest.head? ≠ some '"')
    (behind : List Char) : escaped cs ++ '"' :: rest ≠ '"' :: '"' :: behind := by
  cases cs with
  | nil =>
    intro h
    rw [escaped, List.nil_append, List.cons.injEq] at h
    exact hrest (congrArg List.head? h.2)
  | cons c cs =>
    rw [escaped]
    split
    · exact nofun
    · next hquote =>
      obtain ⟨x, tail, hx, -, -, hx'⟩ := getD_escape? c
      rw [hx]
      exact fun h => hquote (beq_iff_eq.mpr (hx' (List.cons.inj h).1))

/-- What may stand behind a string: nothing that its closing quotes could take in. -/
def Clear (rest : List Char) : Prop := rest.head? ≠ some '"' ∧ rest.head? ≠ some apostrophe

theorem write_eq_cons (cs : List Char) :
    ∃ c tail, write cs = c :: tail ∧ (c = '"' ∨ c = apostrophe) := by
  cases hform : formOf cs <;> simp only [write, hform]
  · exact ⟨_, _, rfl, .inl rfl⟩
  · exact ⟨_, _, rfl, .inr rfl⟩
  · exact ⟨_, _, rfl, .inl rfl⟩
  · exact ⟨_, _, rfl, .inr rfl⟩

/-- **Whatever is written between quotes is read back.** -/
theorem read?_write (cs : List Char) {rest : List Char} (hrest : Clear rest) :
    read? (write cs ++ rest) = some (cs, rest) := by
  obtain ⟨hquote, hapostrophe⟩ := hrest
  cases hform : formOf cs with
  | basic =>
    simp only [write, hform, List.cons_append, List.append_assoc, List.nil_append]
    rw [read?, basic_escaped]
    exact escaped_ne_quotes cs hquote
  | literal =>
    obtain ⟨hplain, hfree⟩ := formOf_literal hform
    simp only [write, hform, List.cons_append, List.append_assoc, List.nil_append]
    have hopen : ((cs ++ apostrophe :: rest).take 2 == [apostrophe, apostrophe]) = false := by
      refine beq_eq_false_iff_ne.mpr fun h => ?_
      match cs, rest, h with
      | [], a :: rest, h => exact hapostrophe (congrArg some (List.cons.inj (List.cons.inj h).2).1)
      | c :: cs, _, h => exact hfree (List.mem_cons.mpr (.inl (List.cons.inj h).1.symm))
    rw [read?]
    · rw [hopen]
      simpa using literal_append hplain hfree rest
    · exact fun _ h => absurd h (by decide)
    · decide
  | multilineBasic =>
    simp only [write, hform, List.cons_append, List.append_assoc, List.nil_append]
    obtain ⟨x, tail, hx, hreturn, hline⟩ := head?_escapedLines 0 cs ('"' :: '"' :: rest)
    rw [read?, skipLineEnd_start]
    · simpa using multiline_escapedLines cs hquote (Nat.zero_le 2)
    · rw [hx]
      simpa using hreturn
    · rw [hx]
      simpa using fun hmem h => hmem (hline h)
  | multilineLiteral =>
    obtain ⟨hplain, hruns⟩ := formOf_multilineLiteral hform
    simp only [write, hform, List.cons_append, List.append_assoc, List.nil_append]
    rw [read?]
    · have hopen (behind : List Char) : ((apostrophe :: apostrophe :: behind).take 2 ==
          [apostrophe, apostrophe]) = true := rfl
      rw [hopen, if_pos rfl, List.drop_succ_cons, List.drop_succ_cons, List.drop_zero,
        skipLineEnd_start]
      · simpa using multilineLiteral_append hplain hapostrophe (Nat.zero_le 2) hruns
      · cases cs with
        | nil => exact fun h => absurd (Option.some.inj h) (by decide)
        | cons c cs =>
          rintro ⟨⟩
          exact absurd (hplain _ List.mem_cons_self) (by decide)
      · cases cs with
        | nil => exact fun _ h => absurd (Option.some.inj h) (by decide)
        | cons c cs =>
          rintro hmem ⟨⟩
          exact hmem List.mem_cons_self
    · exact fun _ h => absurd h (by decide)
    · decide

end CredentialSync.Toml.Quoted
