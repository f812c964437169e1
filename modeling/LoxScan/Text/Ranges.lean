/-
# `LoxScan.Text.Ranges` — sets of characters as ranges

A property of characters is written down as the ranges of code points that have
it, both ends included, in increasing order.
-/

namespace LoxScan

/-- Whether a character is in one of the ranges. -/
def inRanges (ranges : List (Nat × Nat)) (c : Char) : Bool :=
  ranges.any fun range => range.1 ≤ c.toNat && c.toNat ≤ range.2

end LoxScan
