import MetricConsole.Text.Integer

/-!
# Counts

A count shows with its digits in groups of three, no-break spaces between the groups.  Its magnitude
is computed as a word of 64 bits, where that of the least count overflows.
-/

namespace MetricConsole.Text

/-- Why a count has no text. -/
inductive CountFault where
  /-- The magnitude of the count is no word of 64 bits. -/
  | overflow
  deriving DecidableEq, Repr

/-- The space between groups of digits. -/
def groupSpace : Char := '\u00a0'

/-- Characters from the last to the first, with a group space after every third. -/
def groupReversed (seen : Nat) : List Char → List Char
  | [] => []
  | c :: cs =>
    if 0 < seen ∧ seen % 3 = 0 then groupSpace :: c :: groupReversed (seen + 1) cs
    else c :: groupReversed (seen + 1) cs

/-- The magnitude of a count, as a count. -/
def magnitude (n : Int64) : Except CountFault Int64 :=
  match Word.int64? n.toInt.natAbs with
  | some m => .ok m
  | none => .error .overflow

/-- How a count shows on the page. -/
def formatCount (n : Int64) : Except CountFault String := do
  let digits := groupReversed 0 (Integer.render (← magnitude n).toInt).toList.reverse
  return String.ofList (if n < 0 then digits ++ ['-'] else digits).reverse

end MetricConsole.Text
