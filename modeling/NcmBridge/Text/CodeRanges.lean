/-!
# Sets of characters

A property of characters is written down as ranges of code points. The numbers of characters that have
the property lie in one of the ranges.
-/

namespace NcmBridge.Text

/-- Ranges of code points, with both ends. -/
abbrev CodeRanges := List (Nat × Nat)

def CodeRanges.contains (ranges : CodeRanges) (c : Char) : Bool :=
  ranges.any fun r => r.1 ≤ c.toNat && c.toNat ≤ r.2

end NcmBridge.Text
