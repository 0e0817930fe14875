import MarkupTemplate.Number.Double
/-!
# Shortest decimals — the fewest digits that read back

`Double.decimal` finds, for a nonzero double, the shortest decimal inside the
interval of reals that round to it, and of several the one closest to it. All
comparisons are between naturals: everything is counted in units of
`10^-350 / den`, far below the last decimal that matters.
-/

namespace MarkupTemplate

/-- A decimal `digits · 10^(exponent - 350)`. -/
structure Decimal where
  digits : Nat
  exponent : Nat
deriving DecidableEq

namespace Double

/-- The value, with the ends of the interval of reals that round to it, as
numerators over one denominator. -/
structure Interval where
  low : Nat
  value : Nat
  high : Nat
  den : Nat
  closed : Bool

/-- The reals that round to the magnitude of `x`. The ends are half a unit away,
below a power of two a quarter, and belong to it when the significand is
even. -/
def interval (x : Double) : Interval :=
  let unit := twoPow x.scale * tenPow 350
  let belowPowerOfTwo := x.significand = twoPow 52 ∧ 0 < x.scale
  { low := (4 * x.significand - if belowPowerOfTwo then 1 else 2) * unit
    value := 4 * x.significand * unit
    high := (4 * x.significand + 2) * unit
    den := 4 * twoPow 1074
    closed := x.significand % 2 = 0 }

/-- A point of the decimal grid lies in the interval. -/
def Interval.contains (i : Interval) (n : Nat) : Bool :=
  if i.closed then i.low ≤ n && n ≤ i.high else i.low < n && n < i.high

/-- Of the two multiples of `10^exponent` around the value, the closest one that
lies in the interval. -/
def Interval.onGrid? (i : Interval) (exponent : Nat) : Option Decimal :=
  let step := tenPow exponent * i.den
  let below := i.value / step
  let hasBelow := i.contains (below * step)
  let hasAbove := i.contains ((below + 1) * step)
  let belowIsCloser := i.value - below * step ≤ (below + 1) * step - i.value
  if hasBelow && (belowIsCloser || !hasAbove) then some ⟨below, exponent⟩
  else if hasAbove then some ⟨below + 1, exponent⟩
  else none

/-- The number of decimal digits of a natural number; zero has one. -/
def digitCount (n : Nat) : Nat :=
  (Nat.toDigits 10 n).length

/-- The shortest decimal that reads back as the magnitude of `x`: the first grid
with a point in the interval, from one digit to seventeen. -/
def decimal (x : Double) : Decimal :=
  let i := x.interval
  let places := digitCount (i.value / i.den)
  let grids := (List.range 17).map fun n => places - 1 - n
  (grids.findSome? i.onGrid?).getD ⟨i.value / i.den, 0⟩

end Double

end MarkupTemplate
