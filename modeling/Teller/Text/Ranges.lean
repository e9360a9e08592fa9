/-!
# Sets of characters as ranges

A property of characters is a list of ranges of code points, both ends included.
-/

namespace Teller.Text

/-- Characters as spans of code points, both ends included. -/
abbrev Ranges := List (Nat × Nat)

/-- Whether the character is in one of the spans. -/
def Ranges.has (ranges : Ranges) (c : Char) : Bool :=
  ranges.any fun range => range.1 ≤ c.toNat && c.toNat ≤ range.2

end Teller.Text
