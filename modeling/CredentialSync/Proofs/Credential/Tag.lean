import CredentialSync.Credential.Tag
import CredentialSync.Proofs.Text.Percent

/-!
# What a client tag identifies

The first bar of a tag ends the escaped origin, from which the normal form of the origin is read back.
The other fields are joined as they are, so a tag fixes the joined text only (`tag_eq_iff`): which bar
of it ends which field cannot be told.

Credentials with the same tag therefore agree in their natural keys (`Specifics.Agrees`) exactly if
their fields hold the same numbers of bars (`tag_identifies_iff`), and in particular if the fields in
front of the realm hold none.
-/

namespace CredentialSync

/-! ## 1. The origin -/

namespace Origin

theorem escape_injective {s t : String} (h : escape s = escape t) : s = t := by
  have hread := congrArg (fun u => Text.Percent.decode (Text.Utf8.encode u)) h
  have hpercent : isEscaped '%' = true := rfl
  simp only [escape, Text.Percent.decode_encode hpercent] at hread
  exact Text.Utf8.encode_injective hread

/-- An escaped origin holds no bar. -/
theorem count_bar_escape (s : String) : (escape s).toList.count '|' = 0 := by
  refine List.count_eq_zero.2 fun hmem => ?_
  rw [escape, String.toList_ofList] at hmem
  rcases (Text.Percent.mem_encode hmem).2 with hkept | hpercent | ⟨n, hn, hdigit⟩
  · cases hkept
  · cases hpercent
  · have hdigits : ∀ n < 16, '|' ≠ Text.Percent.hexDigit n := by decide
    exact hdigits n hn hdigit

end Origin

/-! ## 2. Joined texts -/

/-- A joined text is taken apart in one way only if the number of bars in front is known. -/
theorem split_unique {x : Char} {as bs cs ds : List Char} (h : as ++ x :: cs = bs ++ x :: ds)
    (hcount : as.count x = bs.count x) : as = bs ∧ cs = ds := by
  induction as generalizing bs with
  | nil =>
    cases bs with
    | nil => exact ⟨rfl, (List.cons.inj h).2⟩
    | cons b bs =>
      obtain ⟨rfl, -⟩ := List.cons.inj h
      simp at hcount
  | cons a as ih =>
    cases bs with
    | nil =>
      obtain ⟨rfl, -⟩ := List.cons.inj h
      simp at hcount
    | cons b bs =>
      obtain ⟨rfl, hrest⟩ := List.cons.inj h
      have hcount' : as.count x = bs.count x := by
        simpa [List.count_cons] using hcount
      obtain ⟨rfl, rfl⟩ := ih hrest hcount'
      exact ⟨rfl, rfl⟩

/-- Two texts joined by a bar. -/
theorem join_unique {a b c d : String} (h : a ++ "|" ++ c = b ++ "|" ++ d)
    (hcount : a.toList.count '|' = b.toList.count '|') : a = b ∧ c = d := by
  have hlist : a.toList ++ '|' :: c.toList = b.toList ++ '|' :: d.toList := by
    simpa using congrArg String.toList h
  obtain ⟨hfront, hback⟩ := split_unique hlist hcount
  exact ⟨String.toList_inj.1 hfront, String.toList_inj.1 hback⟩

namespace Specifics

/-- The fields of the natural key behind the origin, as a tag joins them. -/
def joined (s : Specifics) : String :=
  s.usernameElement ++ "|" ++ (s.usernameValue ++ "|" ++ (s.passwordElement ++ "|" ++ s.signonRealm))

/-- How many bars the fields in front of the realm hold. -/
def bars (s : Specifics) : List Nat :=
  [s.usernameElement, s.usernameValue, s.passwordElement].map fun field => field.toList.count '|'

/-- Two credentials with the same natural key, up to the spelling of the origin. -/
structure Agrees (a b : Specifics) : Prop where
  origin : Origin.normalize a.origin = Origin.normalize b.origin
  usernameElement : a.usernameElement = b.usernameElement
  usernameValue : a.usernameValue = b.usernameValue
  passwordElement : a.passwordElement = b.passwordElement
  signonRealm : a.signonRealm = b.signonRealm

/-! ## 3. Tags -/

theorem tag_eq (s : Specifics) :
    s.tag = Origin.escape (Origin.normalize s.origin) ++ "|" ++ s.joined := by
  simp only [tag, joined, String.append_assoc]

/-- **A tag fixes the normal form of the origin and the joined text of the other fields.** -/
theorem tag_eq_iff {a b : Specifics} :
    a.tag = b.tag ↔
      Origin.normalize a.origin = Origin.normalize b.origin ∧ a.joined = b.joined := by
  rw [tag_eq, tag_eq]
  constructor
  · intro h
    obtain ⟨horigin, hjoined⟩ := join_unique h (by simp only [Origin.count_bar_escape])
    exact ⟨Origin.escape_injective horigin, hjoined⟩
  · rintro ⟨horigin, hjoined⟩
    rw [horigin, hjoined]

/-- Credentials that agree have the same tag. -/
theorem Agrees.tag {a b : Specifics} (h : a.Agrees b) : a.tag = b.tag := by
  refine tag_eq_iff.2 ⟨h.origin, ?_⟩
  rw [joined, joined, h.usernameElement, h.usernameValue, h.passwordElement, h.signonRealm]

/-- A joined text is taken apart in one way only if the numbers of bars are known. -/
theorem fields_of_joined {a b : Specifics} (h : a.joined = b.joined) (hbars : a.bars = b.bars) :
    a.usernameElement = b.usernameElement ∧ a.usernameValue = b.usernameValue ∧
      a.passwordElement = b.passwordElement ∧ a.signonRealm = b.signonRealm := by
  simp only [bars, List.map_cons, List.map_nil, List.cons.injEq, and_true] at hbars
  obtain ⟨hcount₁, hcount₂, hcount₃⟩ := hbars
  obtain ⟨hfield₁, hrest₁⟩ := join_unique h hcount₁
  obtain ⟨hfield₂, hrest₂⟩ := join_unique hrest₁ hcount₂
  obtain ⟨hfield₃, hrealm⟩ := join_unique hrest₂ hcount₃
  exact ⟨hfield₁, hfield₂, hfield₃, hrealm⟩

/-- **A tag identifies a credential up to the places of the bars.** Credentials with the same tag have
    origins of the same normal form, and they agree in the other fields of the natural key exactly if
    those hold the same numbers of bars. -/
theorem tag_identifies_iff (a b : Specifics) (htag : a.tag = b.tag) :
    Origin.normalize a.origin = Origin.normalize b.origin ∧ (a.Agrees b ↔ a.bars = b.bars) := by
  obtain ⟨horigin, hjoined⟩ := tag_eq_iff.1 htag
  refine ⟨horigin, fun h => ?_, fun hbars => ?_⟩
  · rw [bars, bars, h.usernameElement, h.usernameValue, h.passwordElement]
  · obtain ⟨hfield₁, hfield₂, hfield₃, hrealm⟩ := fields_of_joined hjoined hbars
    exact ⟨horigin, hfield₁, hfield₂, hfield₃, hrealm⟩

/-- A credential with a bar in the name of an input field. -/
def barInElement : Specifics :=
  { (Record.sample "abc").specifics with usernameElement := "u|v", usernameValue := "w" }

/-- A credential with the same bar in the value of that field. -/
def barInValue : Specifics :=
  { (Record.sample "abc").specifics with usernameElement := "u", usernameValue := "v|w" }

theorem tag_identifies_bars :
    barInElement.tag = barInValue.tag ∧
      (barInElement.Agrees barInValue ↔ barInElement.bars = barInValue.bars) :=
  have htag : barInElement.tag = barInValue.tag := by decide +kernel
  ⟨htag, (tag_identifies_iff barInElement barInValue htag).2⟩

/-- The tags of two credentials are the same, although their user names differ. -/
theorem bars_collide :
    barInElement.tag = barInValue.tag ∧ barInElement.usernameElement ≠ barInValue.usernameElement ∧
      barInElement.usernameValue ≠ barInValue.usernameValue := by
  decide +kernel

end Specifics

end CredentialSync
