/-!
# Stretches of code points

Tables of characters name stretches of code points that all move by one distance, such as the
capital letters of a script.
-/

namespace CredentialSync.Text

/-- Every `step`th code point from `first` to `last`. -/
structure Span where
  first : Nat
  last : Nat
  step : Nat
  /-- The distance by which each of them moves. -/
  distance : Nat

namespace Span

/-- Whether the stretch holds the code point. -/
def contains (s : Span) (c : Nat) : Bool :=
  s.first ≤ c && c ≤ s.last && (c - s.first) % s.step == 0

/-- How far the first stretch that holds a code point moves it. -/
def distance? (spans : List Span) (c : Nat) : Option Nat :=
  (spans.find? (·.contains c)).map (·.distance)

end Span

end CredentialSync.Text
