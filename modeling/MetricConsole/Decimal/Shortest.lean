import MetricConsole.Decimal.Binary64

/-!
# Shortest decimal digits

`Shortest.digits x` are the fewest digits of a decimal number that rounds to `x`; of the numbers
with so few digits it is the one nearest to `x`.  The numbers that round to `x` form an interval
around it, whose ends belong to it exactly when the mantissa is even.  For one digit, two digits and
so on, the two neighbours of `x` with that many digits are tried.
-/

namespace MetricConsole.Decimal

/-- Digits of a significand, and the power of ten of a point before the first of them. -/
structure Digits where
  digits : List Char
  point : Int
  deriving DecidableEq, Repr

namespace Shortest

/-- The interval that rounds to a number, in quarters of its last place: the number itself, the
lower end and the upper end, as multiples of `unit = 2 ^ (exponent - 2)`. -/
structure Interval where
  value : Nat
  lower : Nat
  upper : Nat
  closed : Bool
  unit : Int

/-- The interval of a number other than zero. Below a power of two the gap is half as wide. -/
def interval (x : Binary64) : Interval where
  value := 4 * x.mantissa
  lower :=
    if x.mantissa = Binary64.leastMantissa ∧ Binary64.minExponent < x.exponent then
      4 * x.mantissa - 1
    else 4 * x.mantissa - 2
  upper := 4 * x.mantissa + 2
  closed := x.mantissa % 2 == 0
  unit := x.exponent - 2

/-- The number of decimal digits of a natural number. -/
def digitCount (n : Nat) : Nat := (Nat.toDigits 10 n).length

/-- The power of ten `k` with `10 ^ (k - 1) ≤ x < 10 ^ k`. -/
def magnitude (i : Interval) : Int :=
  let shift : Nat := 324
  let whole := i.value * Binary64.above i.unit * Nat.pow 10 shift / Binary64.above (-i.unit)
  (digitCount whole : Int) - shift

/-- The decimal number `c · 10 ^ p` and the interval `i` on one scale: `c` counts multiples of
`step`, and the ends of `i` count multiples of `unit`. -/
structure Scale where
  step : Nat
  unit : Nat

/-- The common scale of an interval and the multiples of `10 ^ p`. -/
def scale (i : Interval) (p : Int) : Scale where
  step := Nat.pow 10 p.toNat * Binary64.above (-i.unit)
  unit := Nat.pow 10 (-p).toNat * Binary64.above i.unit

/-- The multiple `c` of the step lies in the interval. -/
def Scale.inside (s : Scale) (i : Interval) (c : Nat) : Bool :=
  let v := c * s.step
  if i.closed then decide (i.lower * s.unit ≤ v) && decide (v ≤ i.upper * s.unit)
  else decide (i.lower * s.unit < v) && decide (v < i.upper * s.unit)

/-- The multiple of the step nearest to the number, of its two neighbours inside the interval; a tie
goes to the even one. -/
def Scale.nearest? (s : Scale) (i : Interval) : Option Nat :=
  let v := i.value * s.unit
  let c := v / s.step
  match s.inside i c, s.inside i (c + 1) with
  | false, false => none
  | true, false => some c
  | false, true => some (c + 1)
  | true, true =>
    let below := v - c * s.step
    let above := (c + 1) * s.step - v
    if below < above then some c
    else if above < below then some (c + 1)
    else if c % 2 = 0 then some c else some (c + 1)

/-- The first significand inside the interval, and its power of ten, when `tried` digits are known
to be too few and `left` more may be tried. -/
def search (i : Interval) (k : Int) (tried : Nat) : Nat → Nat × Int
  | 0 => (0, 0)
  | left + 1 =>
    let p := k - (tried + 1)
    match (scale i p).nearest? i with
    | some c => (c, p)
    | none => search i k (tried + 1) left

/-- A significand and its power of ten as digits without trailing zeros. -/
def ofSignificand (c : Nat) (p : Int) : Digits :=
  let all := Nat.toDigits 10 c
  let kept := (all.reverse.dropWhile (· == '0')).reverse
  ⟨if kept.isEmpty then ['0'] else kept, p + all.length⟩

/-- The shortest digits of a number other than zero, without its sign. -/
def digits (x : Binary64) : Digits :=
  let i := interval x
  let r := search i (magnitude i) 0 17
  ofSignificand r.1 r.2

end Shortest

end MetricConsole.Decimal
