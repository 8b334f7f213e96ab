import CredentialSync.Duration.Text
import CredentialSync.Proofs.Key

/-!
# Durations are read back

A duration is written as a sum of `Summand`s, from years down to nanoseconds, and those that are zero
are left out. The reader adds up the summands one by one (`run_summands`). Together they make up the
duration (`total_summands`), and no sum on the way is greater, so that nothing overflows: every
duration is read back as it was (`read_write`).
-/

namespace CredentialSync.Duration

open Text.Decimal

/-! ## 1. Summands -/

/-- A number of units. -/
structure Summand where
  number : Nat
  unit : TimeUnit

namespace Summand

/-- The length of a summand in nanoseconds. -/
def nanos (s : Summand) : Nat := s.number * s.unit.nanos

/-- The name of the unit behind the number. -/
def unitName (s : Summand) : String :=
  match s.unit with
  | .nanosecond => "ns"
  | .microsecond => "us"
  | .millisecond => "ms"
  | .second => "s"
  | .minute => "m"
  | .hour => "h"
  | .week => "w"
  | .day => if s.number > 1 then "day" ++ "s" else "day"
  | .month => if s.number > 1 then "month" ++ "s" else "month"
  | .year => if s.number > 1 then "year" ++ "s" else "year"

/-- The text of a summand. -/
def text (s : Summand) : String := ofNat s.number ++ s.unitName

/-- A number of units shorter than a second amounts to less than a second. -/
def Fits (s : Summand) : Prop := s.unit.wholeInSeconds = false → s.nanos < 1000000000

/-- The name of a unit is a spelling of it. -/
theorem ofSpelling?_unitName (s : Summand) : TimeUnit.ofSpelling? s.unitName = some s.unit := by
  obtain ⟨n, u⟩ := s
  cases u <;> unfold unitName <;> dsimp only
  case day | month | year => split <;> decide
  all_goals decide

/-- The name of a unit consists of letters. -/
theorem isUnitChar_unitName (s : Summand) : ∀ c ∈ s.unitName.toList,
    Reading.isUnitChar c = true ∧ digit? c = none ∧ Text.Blank.isBlank c = false := by
  have hall : (s.unitName.toList.all fun c =>
      Reading.isUnitChar c && (digit? c).isNone && !Text.Blank.isBlank c) = true := by
    obtain ⟨n, u⟩ := s
    cases u <;> unfold unitName <;> dsimp only
    case day | month | year => split <;> decide
    all_goals decide
  intro c hc
  simpa [and_assoc] using List.all_eq_true.1 hall c hc

theorem unitName_ne_nil (s : Summand) : s.unitName.toList ≠ [] := by
  obtain ⟨n, u⟩ := s
  cases u <;> unfold unitName <;> dsimp only
  case day | month | year => split <;> decide
  all_goals decide

end Summand

/-- The summands of a duration, those that are zero included. -/
def summands (d : Duration) : List Summand :=
  let inYear := d.seconds % 31557600
  let inMonth := inYear % 2630016
  let inDay := inMonth % 86400
  [⟨d.seconds / 31557600, .year⟩, ⟨inYear / 2630016, .month⟩, ⟨inMonth / 86400, .day⟩,
    ⟨inDay / 3600, .hour⟩, ⟨inDay % 3600 / 60, .minute⟩, ⟨inDay % 60, .second⟩,
    ⟨d.subsecond / 1000000, .millisecond⟩, ⟨d.subsecond / 1000 % 1000, .microsecond⟩,
    ⟨d.subsecond % 1000, .nanosecond⟩]

/-- The summands that are written. -/
def written (d : Duration) : List Summand := d.summands.filter fun s => s.number != 0

/-- The length of some summands together. -/
def total : List Summand → Nat
  | [] => 0
  | s :: ss => s.nanos + total ss

theorem part_eq (s : Summand) :
    part s.number s.unitName = if s.number != 0 then [s.text] else [] := by
  unfold part
  cases h : s.number == 0 <;> simp_all [bne, Summand.text]

/-- The parts of a duration are the texts of its summands. -/
theorem parts_eq (d : Duration) : d.parts = d.written.map Summand.text := by
  have hparts : d.parts = d.summands.flatMap fun s => part s.number s.unitName := by
    simp only [parts, wordPart, summands, List.flatMap_cons, List.flatMap_nil, List.append_nil,
      Summand.unitName, List.append_assoc]
  rw [hparts, written]
  induction d.summands with
  | nil => rfl
  | cons s ss ih =>
    rw [List.flatMap_cons, ih, part_eq, List.filter_cons]
    split <;> rfl

theorem total_filter (ss : List Summand) :
    total (ss.filter fun s => s.number != 0) = total ss := by
  induction ss with
  | nil => rfl
  | cons s ss ih =>
    rw [List.filter_cons]
    split
    · simpa [total] using ih
    · next h =>
      have hzero : s.nanos = 0 := by
        have : s.number = 0 := by simpa using h
        simp [Summand.nanos, this]
      simpa [total, hzero] using ih

/-- Seconds are split into years, months, days, hours and minutes. -/
theorem split_seconds (n : Nat) :
    n / 31557600 * 31557600 + n % 31557600 / 2630016 * 2630016 +
      n % 31557600 % 2630016 / 86400 * 86400 + n % 31557600 % 2630016 % 86400 / 3600 * 3600 +
      n % 31557600 % 2630016 % 86400 % 3600 / 60 * 60 +
      n % 31557600 % 2630016 % 86400 % 60 = n := by
  omega

/-- Nanoseconds are split into milliseconds and microseconds. -/
theorem split_nanos (n : Nat) :
    n / 1000000 * 1000000 + n / 1000 % 1000 * 1000 + n % 1000 = n := by
  omega

theorem total_nil : total [] = 0 := rfl

theorem total_cons (n : Nat) (u : TimeUnit) (ss : List Summand) :
    total (⟨n, u⟩ :: ss) = n * u.nanos + total ss := rfl

/-- Everything from minutes on is counted in seconds. -/
theorem total_units (years months days hours minutes seconds millis micros nanos : Nat) :
    total [⟨years, .year⟩, ⟨months, .month⟩, ⟨days, .day⟩, ⟨hours, .hour⟩, ⟨minutes, .minute⟩,
        ⟨seconds, .second⟩, ⟨millis, .millisecond⟩, ⟨micros, .microsecond⟩, ⟨nanos, .nanosecond⟩] =
      (years * 31557600 + months * 2630016 + days * 86400 + hours * 3600 + minutes * 60 + seconds) *
        1000000000 + (millis * 1000000 + micros * 1000 + nanos) := by
  have hyear : TimeUnit.year.nanos = 31557600000000000 := rfl
  have hmonth : TimeUnit.month.nanos = 2630016000000000 := rfl
  have hday : TimeUnit.day.nanos = 86400000000000 := rfl
  have hhour : TimeUnit.hour.nanos = 3600000000000 := rfl
  have hminute : TimeUnit.minute.nanos = 60000000000 := rfl
  have hsecond : TimeUnit.second.nanos = 1000000000 := rfl
  have hmilli : TimeUnit.millisecond.nanos = 1000000 := rfl
  have hmicro : TimeUnit.microsecond.nanos = 1000 := rfl
  have hnano : TimeUnit.nanosecond.nanos = 1 := rfl
  -- rewriting, not simplifying: computed on the way, such factors would be unrolled by the kernel
  rw [total_cons, total_cons, total_cons, total_cons, total_cons, total_cons, total_cons, total_cons,
    total_cons, total_nil, hyear, hmonth, hday, hhour, hminute, hsecond, hmilli, hmicro, hnano]
  omega

theorem seconds_add_subsecond (d : Duration) : d.seconds * 1000000000 + d.subsecond = d.nanos := by
  unfold seconds subsecond
  exact Nat.div_add_mod' _ _

/-- **The summands make up the duration.** -/
theorem total_written (d : Duration) : total d.written = d.nanos := by
  rw [written, total_filter, summands, total_units, split_seconds, split_nanos,
    seconds_add_subsecond]

theorem fits_summands (d : Duration) : ∀ s ∈ d.summands, s.Fits := by
  intro s hs
  simp only [summands, List.mem_cons, List.not_mem_nil, or_false] at hs
  have hsub : d.subsecond < 1000000000 := Nat.mod_lt _ (by decide)
  rcases hs with rfl | rfl | rfl | rfl | rfl | rfl | rfl | rfl | rfl
  all_goals
    rintro ⟨⟩
    try
      simp only [Summand.nanos, TimeUnit.nanos]
      omega

/-- Numbers of units fit 64 bits. -/
theorem number_lt (d : Duration) : ∀ s ∈ d.summands, s.number < UInt64.size := by
  have hsize : UInt64.size = 18446744073709551616 := rfl
  have hseconds : d.seconds < UInt64.size := Nat.div_lt_of_lt_mul (by rw [Nat.mul_comm]; exact d.lt)
  have hsub : d.subsecond < 1000000000 := Nat.mod_lt _ (by decide)
  intro s hs
  simp only [summands, List.mem_cons, List.not_mem_nil, or_false] at hs
  rcases hs with rfl | rfl | rfl | rfl | rfl | rfl | rfl | rfl | rfl
  all_goals
    dsimp only
    omega

/-! ## 2. Adding up -/

theorem nanos_eq {u : TimeUnit} (h : u.wholeInSeconds = true) :
    u.nanos = u.nanos / 1000000000 * 1000000000 := by
  revert h
  cases u <;> decide

theorem word?_of_lt {n : Nat} (h : n < UInt64.size) : word? n = some n := if_pos h

theorem ofNanos?_of_lt {n : Nat} (h : n < UInt64.size * 1000000000) : ofNanos? n = some ⟨n, h⟩ :=
  dif_pos h

/-- Whole numbers of units are not divided. -/
theorem count?_one (inSeconds : Bool) (u : TimeUnit) (n : Nat) :
    count? inSeconds u n 1 = word? (n * if inSeconds then u.nanos / 1000000000 else u.nanos) := by
  unfold count?
  cases word? (n * if inSeconds then u.nanos / 1000000000 else u.nanos) with
  | none => rfl
  | some k =>
    rw [Option.bind_some, Nat.mod_one, Nat.div_one]
    rfl

/-- A summand is added as long as the sum is a duration. -/
theorem addWhole?_eq {d : Duration} {s : Summand} (hfits : s.Fits)
    (hlt : d.nanos + s.nanos < UInt64.size * 1000000000) :
    d.addWhole? s.unit s.number = some ⟨d.nanos + s.nanos, hlt⟩ := by
  have hsize : UInt64.size = 18446744073709551616 := rfl
  rw [addWhole?, count?_one]
  cases hunit : s.unit.wholeInSeconds with
  | true =>
    have hnanos : s.number * (s.unit.nanos / 1000000000) * 1000000000 = s.nanos := by
      rw [Summand.nanos, Nat.mul_assoc, ← nanos_eq hunit]
    have hword : s.number * (s.unit.nanos / 1000000000) < UInt64.size := by omega
    rw [if_pos rfl, word?_of_lt hword, Option.bind_some, extend?, if_pos rfl, hnanos,
      ofNanos?_of_lt hlt]
  | false =>
    have hsmall := hfits hunit
    have hnanos : s.number * s.unit.nanos = s.nanos := rfl
    have hsub : d.subsecond < 1000000000 := Nat.mod_lt _ (by decide)
    rw [if_neg Bool.false_ne_true, hnanos, word?_of_lt (by omega), Option.bind_some, extend?,
      if_neg Bool.false_ne_true, word?_of_lt (by omega), Option.bind_some, ofNanos?_of_lt hlt]

namespace Reading

theorem complete_summand {sum : Duration} {s : Summand} (hfits : s.Fits)
    (hlt : sum.nanos + s.nanos < UInt64.size * 1000000000) :
    complete sum s.number none s.unitName.toList.reverse = .ok ⟨sum.nanos + s.nanos, hlt⟩ := by
  unfold complete
  rw [List.reverse_reverse, String.ofList_toList, s.ofSpelling?_unitName]
  simp only [addWhole?_eq hfits hlt, Option.bind_some]

/-! ## 3. Reading one summand -/

theorem le_ofDigitChars (cs : List Char) (n : Nat) : n ≤ Nat.ofDigitChars 10 cs n := by
  induction cs generalizing n with
  | nil => exact Nat.le_refl _
  | cons c cs ih =>
    rw [Nat.ofDigitChars_cons]
    exact Nat.le_trans (by omega) (ih _)

/-- Digits are read onto the number before them as long as it fits 64 bits. -/
theorem run_whole {cs : List Char} (hcs : ∀ c ∈ cs, c.isDigit = true) {n : Nat}
    (hlt : Nat.ofDigitChars 10 cs n < UInt64.size) (sum : Duration) (position : Nat)
    (rest : List Char) :
    ∃ position', run ⟨sum, .whole n⟩ position (cs ++ rest) =
      run ⟨sum, .whole (Nat.ofDigitChars 10 cs n)⟩ position' rest := by
  induction cs generalizing n position with
  | nil => exact ⟨position, rfl⟩
  | cons c cs ih =>
    rw [Nat.ofDigitChars_cons] at hlt ⊢
    have hpush : pushDigit n (c.toNat - 48) = .ok (10 * n + (c.toNat - '0'.toNat)) := by
      have hnext := Nat.lt_of_le_of_lt (le_ofDigitChars cs _) hlt
      rw [pushDigit, word?, if_pos (by rw [Nat.mul_comm]; exact hnext), Nat.mul_comm]
      rfl
    obtain ⟨position', hrest⟩ := ih (fun c hc => hcs c (List.mem_cons_of_mem _ hc)) hlt
      (position + c.utf8Size)
    refine ⟨position', ?_⟩
    rw [List.cons_append, run, step]
    simp only [digit?_of_isDigit (hcs c List.mem_cons_self), hpush, Except.map]
    exact hrest

/-- Letters are put in front of those before them. -/
theorem run_unit {cs : List Char} (hcs : ∀ c ∈ cs,
      isUnitChar c = true ∧ digit? c = none ∧ Text.Blank.isBlank c = false)
    (sum : Duration) (n : Nat) (letters : List Char) (position : Nat) (rest : List Char) :
    ∃ position', run ⟨sum, .unit n none letters⟩ position (cs ++ rest) =
      run ⟨sum, .unit n none (cs.reverse ++ letters)⟩ position' rest := by
  induction cs generalizing letters position with
  | nil => exact ⟨position, rfl⟩
  | cons c cs ih =>
    obtain ⟨hletter, hdigit, hblank⟩ := hcs c List.mem_cons_self
    obtain ⟨position', hrest⟩ := ih (fun c hc => hcs c (List.mem_cons_of_mem _ hc)) (c :: letters)
      (position + c.utf8Size)
    refine ⟨position', ?_⟩
    rw [List.cons_append, run, step]
    simp only [hdigit, hblank, hletter, Bool.false_eq_true, if_false, if_true]
    rw [hrest, List.reverse_cons, List.append_assoc, List.singleton_append]

/-- Behind the text of a summand, its unit has been read. -/
theorem run_summand (s : Summand) (hlt : s.number < UInt64.size) (sum : Duration) (since : Nat)
    (first : Bool) (position : Nat) (rest : List Char) :
    ∃ position', run ⟨sum, .before since first⟩ position (s.text.toList ++ rest) =
      run ⟨sum, .unit s.number none s.unitName.toList.reverse⟩ position' rest := by
  have hdigits : ∀ c ∈ Nat.toDigits 10 s.number, c.isDigit = true := fun c hc =>
    Nat.isDigit_of_mem_toDigits (by decide) (by decide) hc
  have hnumber := Nat.ofDigitChars_ten_toDigits (n := s.number)
  have hletters := s.isUnitChar_unitName
  rw [Summand.text, String.toList_append, ofNat, String.toList_ofList, List.append_assoc]
  cases hcs : Nat.toDigits 10 s.number with
  | nil => exact absurd hcs Nat.toDigits_ne_nil
  | cons c cs =>
    cases hname : s.unitName.toList with
    | nil => exact absurd hname s.unitName_ne_nil
    | cons l ls =>
      rw [hcs] at hdigits hnumber
      rw [hname] at hletters
      rw [Nat.ofDigitChars_cons, Nat.mul_zero, Nat.zero_add] at hnumber
      obtain ⟨hletter, hdigit, hblank⟩ := hletters l List.mem_cons_self
      obtain ⟨p₁, h₁⟩ := run_whole (fun c hc => hdigits c (List.mem_cons_of_mem _ hc))
        (by rw [hnumber]; exact hlt) sum (position + c.utf8Size) (l :: ls ++ rest)
      obtain ⟨p₂, h₂⟩ := run_unit (fun c hc => hletters c (List.mem_cons_of_mem _ hc)) sum s.number
        [l] (p₁ + l.utf8Size) rest
      refine ⟨p₂, ?_⟩
      rw [List.cons_append, run, step]
      simp only [digit?_of_isDigit (hdigits c List.mem_cons_self)]
      refine h₁.trans ?_
      rw [hnumber, List.cons_append, run, step]
      simp only [hdigit, hblank, hletter, Bool.false_eq_true, if_false, if_true]
      rw [h₂, List.reverse_cons]

/-! ## 4. Reading all summands -/

/-- **The texts of summands, with blanks between them, are read as their sum.** -/
theorem run_summands (sum : Duration) {s : Summand} {ss : List Summand}
    (hfits : ∀ x ∈ s :: ss, x.Fits) (hnumber : ∀ x ∈ s :: ss, x.number < UInt64.size)
    (hlt : sum.nanos + total (s :: ss) < UInt64.size * 1000000000) (since : Nat) (first : Bool)
    (position : Nat) :
    run ⟨sum, .before since first⟩ position
        ([' '].intercalate ((s :: ss).map fun x => x.text.toList)) =
      .ok ⟨sum.nanos + total (s :: ss), hlt⟩ := by
  induction ss generalizing s sum since first position with
  | nil =>
    have hone : sum.nanos + s.nanos < UInt64.size * 1000000000 := by simpa [total] using hlt
    obtain ⟨p, hp⟩ := run_summand s (hnumber s List.mem_cons_self) sum since first position []
    rw [List.append_nil] at hp
    rw [List.map_cons, List.map_nil, List.intercalate_singleton, hp, run, finish]
    simp only [complete_summand (hfits s List.mem_cons_self) hone, total, Nat.add_zero]
  | cons t ts ih =>
    have htotal : total (s :: t :: ts) = s.nanos + total (t :: ts) := by simp [total]
    have hone : sum.nanos + s.nanos < UInt64.size * 1000000000 := by omega
    obtain ⟨p, hp⟩ := run_summand s (hnumber s List.mem_cons_self) sum since first position
      (' ' :: [' '].intercalate ((t :: ts).map fun x => x.text.toList))
    have hblank : digit? ' ' = none ∧ Text.Blank.isBlank ' ' = true := by decide
    have hrest := ih ⟨sum.nanos + s.nanos, hone⟩ (fun x hx => hfits x (List.mem_cons_of_mem _ hx))
      (fun x hx => hnumber x (List.mem_cons_of_mem _ hx))
      (by rw [htotal, ← Nat.add_assoc] at hlt; exact hlt) (p + ' '.utf8Size) false
      (p + ' '.utf8Size)
    rw [List.map_cons, List.map_cons, List.intercalate_cons_cons, List.append_assoc,
      List.singleton_append, ← List.map_cons (f := fun x : Summand => x.text.toList), hp, run, step]
    simp only [hblank.1, hblank.2, if_true, complete_summand (hfits s List.mem_cons_self) hone,
      Except.map]
    rw [hrest]
    simp only [htotal, Nat.add_assoc]

end Reading

/-- **Every duration is read back.** -/
theorem read_write (d : Duration) : read d.write = .ok d := by
  unfold write
  split
  · next hzero =>
    obtain rfl : d = zero := by
      obtain ⟨n, hn⟩ := d
      obtain rfl : n = 0 := by simpa using hzero
      rfl
    rfl
  · next hnonzero =>
    have htotal := total_written d
    have hmem : ∀ s ∈ d.written, s ∈ d.summands := fun s hs => (List.mem_filter.1 hs).1
    rw [parts_eq]
    cases hwritten : d.written with
    | nil =>
      rw [hwritten] at htotal
      rw [← htotal] at hnonzero
      exact absurd rfl hnonzero
    | cons s ss =>
      rw [hwritten] at htotal hmem
      have hread := Reading.run_summands zero (fun x hx => fits_summands d x (hmem x hx))
        (fun x hx => number_lt d x (hmem x hx))
        (by rw [htotal, zero, Nat.zero_add]; exact d.lt) 0 true 0
      have hlist : (" ".intercalate ((s :: ss).map Summand.text)).toList =
          [' '].intercalate ((s :: ss).map fun x => x.text.toList) := by
        rw [String.toList_intercalate, List.map_map]
        rfl
      rw [← hlist] at hread
      have hnot : " ".intercalate ((s :: ss).map Summand.text) ≠ "0" := fun h => by
        rw [h] at hread
        cases hread
      rw [read, if_neg (by simpa using hnot), hread]
      simp only [htotal, zero, Nat.zero_add]

end CredentialSync.Duration
