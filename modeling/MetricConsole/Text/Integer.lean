import MetricConsole.Word

/-!
# Whole numbers as text

A number is an optional sign and one or more ASCII digits; leading zeros are allowed.
-/

namespace MetricConsole.Text.Integer

/-- The value of an ASCII digit. -/
def digit? (c : Char) : Option Nat :=
  if '0' ≤ c ∧ c ≤ '9' then some (c.toNat - '0'.toNat) else none

/-- The value of the digits `cs` written after digits with the value `value`. -/
def digitsAfter (value : Nat) : List Char → Option Nat
  | [] => some value
  | c :: cs => do digitsAfter (10 * value + (← digit? c)) cs

/-- The value of one or more digits. -/
def digits? : List Char → Option Nat
  | [] => none
  | cs => digitsAfter 0 cs

/-- The value of a text of an optional sign and digits. -/
def parse? (s : String) : Option Int :=
  match s.toList with
  | '-' :: cs => (digits? cs).map fun n => -(n : Int)
  | '+' :: cs => (digits? cs).map fun n => (n : Int)
  | cs => (digits? cs).map fun n => (n : Int)

/-- The decimal text of a number: digits without leading zeros, after a minus sign if negative. -/
def render (n : Int) : String :=
  if n < 0 then "-" ++ Nat.repr n.natAbs else Nat.repr n.natAbs

/-- Reads a word of 32 bits. -/
def parseInt32? (s : String) : Option Int32 := do Word.int32? (← parse? s)

/-- Reads a word of 64 bits. -/
def parseInt64? (s : String) : Option Int64 := do Word.int64? (← parse? s)

end MetricConsole.Text.Integer
