import CredentialSync.Proofs.Credential.Tag

/-!
# The origin in a client tag

The origin stands in a tag in its escaped form, so that it can be told from the other fields and read
back.

* `Origin.escape_written`: an escaped text is ASCII, holds no bar, and holds a character of the escape
  set only as the percent sign of an escape; unescaping gives the text back.
* `Specifics.tag_reads_back`: what stands before the first bar of a tag is the escaped origin in normal
  form, and what stands behind it are the other fields, joined.
-/

namespace CredentialSync

/-! ## 1. Escaped texts -/

/-- The text that an escaped text stands for, if the bytes are UTF-8. -/
def Text.Percent.unescape (s : String) : Except Text.Utf8.Fault String :=
  Text.Utf8.decode (Text.Percent.decode (Text.Utf8.encode s))

namespace Origin

open Text.Percent (isHexDigit unescape)

/-- The digits of an escape are not escaped themselves. -/
theorem isEscaped_of_isHexDigit {c : Char} (h : isHexDigit c = true) : isEscaped c = false := by
  have hrange : (48 ≤ c.toNat ∧ c.toNat ≤ 57) ∨ (65 ≤ c.toNat ∧ c.toNat ≤ 70) := by
    simp only [isHexDigit, Bool.or_eq_true, Bool.and_eq_true, decide_eq_true_eq] at h
    exact h
  have hall : ∀ n < 71, (48 ≤ n ∧ n ≤ 57) ∨ (65 ≤ n ∧ n ≤ 70) → isEscaped (Char.ofNat n) = false := by
    decide
  have hc := hall c.toNat (by omega) hrange
  rwa [Char.ofNat_toNat] at hc

theorem toList_escape (s : String) : (escape s).toList = Text.Percent.encode isEscaped s := by
  rw [escape, String.toList_ofList]

theorem not_mem_bar_escape (s : String) : '|' ∉ (escape s).toList :=
  List.count_eq_zero.1 (count_bar_escape s)

/-- **A text is read back from its escaped form.** -/
theorem unescape_escape (s : String) : unescape (escape s) = .ok s := by
  have hpercent : isEscaped '%' = true := rfl
  rw [unescape, escape, Text.Percent.decode_encode hpercent, Text.Utf8.decode_encode]

/-- **How an escaped text is written.** -/
theorem escape_written (s : String) :
    (∀ c ∈ (escape s).toList, c.toNat < 128) ∧ '|' ∉ (escape s).toList ∧
      (∀ front c rest, (escape s).toList = front ++ c :: rest → isEscaped c = true →
        c = '%' ∧ ∃ a b rest', rest = a :: b :: rest' ∧ isHexDigit a = true ∧ isHexDigit b = true) ∧
      unescape (escape s) = .ok s := by
  have hescaped := Text.Percent.escaped_encode isEscaped s
  rw [← toList_escape] at hescaped
  refine ⟨fun c hc => ?_, not_mem_bar_escape s, fun front c rest hsplit hc => ?_, unescape_escape s⟩
  · rw [toList_escape] at hc
    exact (Text.Percent.mem_encode hc).1
  · exact hescaped.of_split (fun _ => isEscaped_of_isHexDigit) hsplit hc

end Origin

/-! ## 2. Tags -/

/-- What stands before the first bar of a text. -/
def beforeBar (s : String) : String := String.ofList (s.toList.takeWhile (· != '|'))

/-- What stands behind the first bar of a text. -/
def behindBar (s : String) : String := String.ofList ((s.toList.dropWhile (· != '|')).drop 1)

/-- A text without a bar, in front of a bar, is what stands before the first one. -/
theorem split_bar {a b : String} (h : '|' ∉ a.toList) :
    beforeBar (a ++ "|" ++ b) = a ∧ behindBar (a ++ "|" ++ b) = b := by
  have hlist : (a ++ "|" ++ b).toList = a.toList ++ '|' :: b.toList := by
    rw [String.toList_append, String.toList_append, List.append_assoc]
    rfl
  have hkept : ∀ c ∈ a.toList, (c != '|') = true := fun c hc =>
    bne_iff_ne.2 fun hbar => h (hbar ▸ hc)
  have hbar : ¬('|' != '|') = true := by decide
  constructor
  · rw [beforeBar, hlist, List.takeWhile_append_of_pos hkept, List.takeWhile_cons_of_neg (p := (· != '|')) hbar,
      List.append_nil, String.ofList_toList]
  · rw [behindBar, hlist, List.dropWhile_append_of_pos hkept, List.dropWhile_cons_of_neg (p := (· != '|')) hbar,
      List.drop_one, List.tail_cons, String.ofList_toList]

namespace Specifics

/-- The fields behind the origin, as a tag joins them. -/
theorem joined_eq_intercalate (p : Specifics) :
    p.joined = "|".intercalate
      [p.usernameElement, p.usernameValue, p.passwordElement, p.signonRealm] := by
  show p.joined = p.usernameElement ++ "|" ++ p.usernameValue ++ "|" ++ p.passwordElement ++ "|" ++
    p.signonRealm
  simp only [joined, String.append_assoc]

/-- **The origin is read back from a tag.** Every text is escaped into ASCII characters, without a bar
and without any other character of the escape set than the percent signs of escapes, and unescaping
gives it back. So for every credential: the tag holds a bar; what stands before the first one unescapes
to the normal form of the origin; what stands behind it are the names and the value of the input fields
and the realm, joined by bars. -/
theorem tag_reads_back :
    (∀ s : String,
      (∀ c ∈ (Origin.escape s).toList, c.toNat < 128) ∧ '|' ∉ (Origin.escape s).toList ∧
      (∀ front c rest, (Origin.escape s).toList = front ++ c :: rest → Origin.isEscaped c = true →
        c = '%' ∧ ∃ a b rest', rest = a :: b :: rest' ∧ Text.Percent.isHexDigit a = true ∧
          Text.Percent.isHexDigit b = true) ∧
      Text.Percent.unescape (Origin.escape s) = .ok s) ∧
    ∀ p : Specifics,
      p.tag = beforeBar p.tag ++ "|" ++ behindBar p.tag ∧
      Text.Percent.unescape (beforeBar p.tag) = .ok (Origin.normalize p.origin) ∧
      behindBar p.tag = "|".intercalate
        [p.usernameElement, p.usernameValue, p.passwordElement, p.signonRealm] := by
  refine ⟨Origin.escape_written, fun p => ?_⟩
  obtain ⟨hbefore, hbehind⟩ := split_bar (b := p.joined)
    (Origin.not_mem_bar_escape (Origin.normalize p.origin))
  rw [← tag_eq] at hbefore hbehind
  rw [hbefore, hbehind]
  exact ⟨p.tag_eq, Origin.unescape_escape _, p.joined_eq_intercalate⟩

end Specifics

end CredentialSync
