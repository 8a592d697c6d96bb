/-!
# Ranges of code points

The form in which the character properties of this library are tabled: a list of closed intervals.
-/

namespace HeaderIndex.Text

/-- Closed intervals of code points. -/
abbrev Ranges := List (Nat × Nat)

/-- Whether a code point lies in one of the intervals. -/
def Ranges.has (ranges : Ranges) (code : Nat) : Bool :=
  ranges.any fun range => range.1 ≤ code && code ≤ range.2

end HeaderIndex.Text
