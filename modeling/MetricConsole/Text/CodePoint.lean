/-!
# Ranges of code points

A Unicode property is a list of ranges of code points, both ends included.
-/

namespace MetricConsole.Text.CodePoint

/-- The first and the last code point of a range. -/
abbrev Range := Nat × Nat

/-- The character lies in one of the ranges. -/
def memAny (ranges : List Range) (c : Char) : Bool :=
  ranges.any fun r => decide (r.1 ≤ c.toNat) && decide (c.toNat ≤ r.2)

end MetricConsole.Text.CodePoint
