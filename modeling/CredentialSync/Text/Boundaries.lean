/-!
# Classes of characters

A class of characters is given by the code points where it begins or ends, in ascending order and
cut into blocks: a code point belongs to the class when the number of boundaries not above it is
odd.
-/

namespace CredentialSync.Text

/-- Ascending boundaries, in blocks that each end below the code point named first. -/
abbrev Boundaries := List (Nat × List Nat)

/-- How many boundaries are not above `c`. -/
def Boundaries.upTo (c : Nat) : Boundaries → Nat
  | [] => 0
  | (limit, block) :: rest =>
    if c < limit then (block.takeWhile (· ≤ c)).length
    else block.length + Boundaries.upTo c rest

/-- Whether the code point lies inside the class. -/
def Boundaries.contains (b : Boundaries) (c : Nat) : Bool := b.upTo c % 2 == 1

end CredentialSync.Text
