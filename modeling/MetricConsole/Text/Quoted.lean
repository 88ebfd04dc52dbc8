import MetricConsole.Text.GraphemeExtend
import MetricConsole.Text.Hex
import MetricConsole.Text.Unprintable

/-!
# Quoted text

A text between double quotes in which quotes, backslashes, and characters without a visible form
of their own are escaped, so that two different texts never look alike.
-/

namespace MetricConsole.Text.Quoted

/-- The form of one character inside quotes. -/
def escape (c : Char) : List Char :=
  if c = '\x00' then ['\\', '0']
  else if c = '\t' then ['\\', 't']
  else if c = '\r' then ['\\', 'r']
  else if c = '\n' then ['\\', 'n']
  else if c = '\\' ∨ c = '"' then ['\\', c]
  else if ' ' ≤ c ∧ c ≤ '~' then [c]
  else if extendsGrapheme c || hasNoForm c then
    ['\\', 'u', '\x7b'] ++ Hex.digits c.toNat ++ ['\x7d']
  else [c]

/-- The text between quotes. -/
def quote (s : String) : String :=
  String.ofList ('"' :: (s.toList.flatMap escape ++ ['"']))

/-- A text that may be absent: `None`, or `Some` before the quoted text in parentheses. -/
def quoteOption : Option String → String
  | none => "None"
  | some s => "Some(" ++ quote s ++ ")"

end MetricConsole.Text.Quoted
