/-!
# Binary floating point of 64 bits

A finite number of this format is `± mantissa · 2 ^ exponent` with a mantissa below `2 ^ 53` and an
exponent of at least `-1074`; the mantissa is at least `2 ^ 52` unless the exponent is the least
one.
`ofRatio?` rounds a quotient of natural numbers to the nearest such number, a tie to the even
mantissa; products and quotients are exact quotients rounded once.  A result beyond the largest
finite number is refused.
-/

namespace MetricConsole.Decimal

/-- A finite binary floating-point number of 64 bits. -/
structure Binary64 where
  negative : Bool
  mantissa : Nat
  exponent : Int
  deriving DecidableEq, Repr

namespace Binary64

/-- The least exponent. -/
def minExponent : Int := -1074

/-- The greatest exponent. -/
def maxExponent : Int := 971

/-- The least mantissa of a number whose exponent is not the least one. -/
def leastMantissa : Nat := Nat.pow 2 52

/-- Zero with a sign. -/
def zero (negative : Bool) : Binary64 := ⟨negative, 0, minExponent⟩

/-- The number is zero, of either sign. -/
def isZero (x : Binary64) : Bool := x.mantissa == 0

/-- The number with the other sign. -/
def neg (x : Binary64) : Binary64 := { x with negative := !x.negative }

/-- `num / den` rounded to a natural number, a tie to the even one. -/
def roundDiv (num den : Nat) : Nat :=
  let q := num / den
  let r := num % den
  if 2 * r < den then q
  else if den < 2 * r then q + 1
  else if q % 2 = 0 then q else q + 1

/-- `2 ^ e` above the line of a fraction. -/
def above (e : Int) : Nat := Nat.pow 2 e.toNat

/-- `num / den / 2 ^ e` rounded to a natural number. -/
def scaledRound (num den : Nat) (e : Int) : Nat :=
  roundDiv (num * above (-e)) (den * above e)

/-- The exponent at which `num / den` has a mantissa of 53 bits, or the least exponent. -/
def exponentFor (num den : Nat) : Int :=
  let e : Int := (Nat.log2 num : Int) - (Nat.log2 den : Int) - 52
  let short := num * above (-e) < leastMantissa * (den * above e)
  max (if short then e - 1 else e) minExponent

/-- The number nearest to `num / den`, unless that is beyond the largest finite number. -/
def ofRatio? (negative : Bool) (num den : Nat) : Option Binary64 :=
  if num = 0 then some (zero negative)
  else
    let e := exponentFor num den
    let m := scaledRound num den e
    let x : Binary64 :=
      if m = 2 * leastMantissa then ⟨negative, leastMantissa, e + 1⟩ else ⟨negative, m, e⟩
    if x.mantissa = 0 then some (zero negative)
    else if maxExponent < x.exponent then none
    else some x

/-- The number nearest to a natural number. -/
def ofNat? (n : Nat) : Option Binary64 := ofRatio? false n 1

/-- The product, rounded once. -/
def mul? (x y : Binary64) : Option Binary64 :=
  let e := x.exponent + y.exponent
  ofRatio? (x.negative != y.negative) (x.mantissa * y.mantissa * above e) (above (-e))

/-- The quotient by a number other than zero, rounded once. -/
def div? (x y : Binary64) : Option Binary64 :=
  let e := x.exponent - y.exponent
  ofRatio? (x.negative != y.negative) (x.mantissa * above e) (y.mantissa * above (-e))

end Binary64

end MetricConsole.Decimal
