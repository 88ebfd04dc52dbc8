/-!
# Hexadecimal digits

Digits of numbers below sixteen, in either case, and the value of a digit.
-/

namespace MetricConsole.Text.Hex

/-- The digit of a number below sixteen, in lower case. -/
def lower (n : Nat) : Char :=
  Char.ofNat (if n < 10 then '0'.toNat + n else 'a'.toNat + (n - 10))

/-- The digit of a number below sixteen, in upper case. -/
def upper (n : Nat) : Char :=
  Char.ofNat (if n < 10 then '0'.toNat + n else 'A'.toNat + (n - 10))

/-- The value of a digit in either case. -/
def value? (c : Char) : Option Nat :=
  if '0' ≤ c ∧ c ≤ '9' then some (c.toNat - '0'.toNat)
  else if 'a' ≤ c ∧ c ≤ 'f' then some (c.toNat - 'a'.toNat + 10)
  else if 'A' ≤ c ∧ c ≤ 'F' then some (c.toNat - 'A'.toNat + 10)
  else none

/-- The digits of a number in base sixteen, without leading zeros. -/
def digits (n : Nat) : List Char := Nat.toDigits 16 n

theorem value?_upper : ∀ n < 16, value? (upper n) = some n := by decide

theorem value?_lower : ∀ n < 16, value? (lower n) = some n := by decide

end MetricConsole.Text.Hex
