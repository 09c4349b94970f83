/-!
Sets of characters as lists of code point ranges, both ends included.  A property of the Unicode
standard is data of this type, one module each.
-/

namespace Overlay.Unicode

/-- A set of code points: the union of closed ranges. -/
abbrev Ranges := List (Nat × Nat)

/-- A code point is in the set when one of the ranges covers it. -/
def Ranges.covers (ranges : Ranges) (code : Nat) : Bool :=
  ranges.any fun range => range.1 ≤ code && code ≤ range.2

end Overlay.Unicode
