import MetricConsole.Decimal.Binary64

/-!
# Decimal significands

A number text gives a significand of at most 64 bits and a power of ten.  Its value is the rounded
significand multiplied or divided by a rounded power of ten, and rounded again; the result can
therefore differ from the nearest number in the last place.
-/

namespace MetricConsole.Decimal

/-- The largest power of ten that is a finite number. -/
def maxPower : Nat := 308

/-- The number nearest to `10 ^ n`, for `n` up to `maxPower`. -/
def powerOfTen? (n : Nat) : Option Binary64 :=
  if n ≤ maxPower then Binary64.ofNat? (Nat.pow 10 n) else none

/-- `x · 10 ^ -n`, in steps of at most `10 ^ maxPower`. -/
def shiftDown (steps : Nat) (x : Binary64) (n : Nat) : Option Binary64 :=
  match powerOfTen? n with
  | some p => x.div? p
  | none =>
    if x.isZero then some x
    else
      match steps with
      | 0 => some x
      | steps + 1 => do
        let p ← powerOfTen? maxPower
        shiftDown steps (← x.div? p) (n - maxPower)

/-- `x · 10 ^ n`; nothing if the result is beyond the largest finite number. -/
def shiftUp (x : Binary64) (n : Nat) : Option Binary64 :=
  match powerOfTen? n with
  | some p => x.mul? p
  | none => if x.isZero then some x else none

/-- The number `± significand · 10 ^ exponent`. -/
def scaled? (negative : Bool) (significand : Nat) (exponent : Int) : Option Binary64 := do
  let x ← Binary64.ofNat? significand
  let y ← if 0 ≤ exponent then shiftUp x exponent.toNat
    else shiftDown exponent.natAbs x exponent.natAbs
  return if negative then y.neg else y

end MetricConsole.Decimal
