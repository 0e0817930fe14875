/-!
# Doubles — the finite binary64 numbers

A `Double` is a 64-bit word whose exponent field is not all ones, so there is
no infinity and nothing that is not a number. Its value is
`±significand · 2^exponent`. `nearest?` rounds a quotient of naturals to the
closest double, ties to the even significand, and has no answer exactly where
the result would be infinite.
-/

namespace MarkupTemplate

/-- A power of two. -/
def twoPow (n : Nat) : Nat :=
  Nat.pow 2 n

/-- A power of ten. -/
def tenPow (n : Nat) : Nat :=
  Nat.pow 10 n

/-- The eleven exponent bits of a binary64 word. -/
def exponentField (bits : UInt64) : Nat :=
  bits.toNat / twoPow 52 % twoPow 11

/-- A finite binary64 number. -/
structure Double where
  bits : UInt64
  finite : exponentField bits ≠ 2047
deriving DecidableEq

namespace Double

/-- The double with the given bits, if they denote a finite number. -/
def ofBits? (bits : UInt64) : Option Double :=
  if h : exponentField bits ≠ 2047 then some ⟨bits, h⟩ else none

/-- Zero, with a sign. -/
def zero (negative : Bool) : Double :=
  if negative then ⟨0x8000000000000000, by decide⟩ else ⟨0, by decide⟩

/-- The sign bit is set. -/
def isNegative (x : Double) : Bool :=
  twoPow 63 ≤ x.bits.toNat

/-- The significand, with the implicit leading bit of a normal number. -/
def significand (x : Double) : Nat :=
  let fraction := x.bits.toNat % twoPow 52
  if exponentField x.bits = 0 then fraction else twoPow 52 + fraction

/-- The magnitude is `significand · 2^scale / 2^1074`. -/
def scale (x : Double) : Nat :=
  exponentField x.bits - 1

/-- Both zeros are zero. -/
def isZero (x : Double) : Bool :=
  x.significand = 0

/-- Two doubles denote the same number: the same bits, or two zeros. -/
def sameValue (x y : Double) : Bool :=
  x = y || (x.isZero && y.isZero)

/-- The natural number closest to `num / den`, the even one of two. -/
def roundToEven (num den : Nat) : Nat :=
  let q := num / den
  let r := num % den
  if 2 * r < den then q
  else if den < 2 * r then q + 1
  else if q % 2 = 0 then q
  else q + 1

/-- The words below this one, read as magnitudes, are finite. -/
def infinityWord : Nat :=
  2047 * twoPow 52

/-- The double closest to `±num / den`.

The magnitude is counted in units of `2^-1074`; dropping the `drop` low bits
that a significand of 53 bits cannot hold and rounding what is left gives the
word, a carry out of the significand included. -/
def nearest? (negative : Bool) (num den : Nat) : Option Double :=
  let units := num * twoPow 1074
  let drop := (units / den).log2 - 52
  let word := drop * twoPow 52 + roundToEven units (den * twoPow drop)
  if word < infinityWord then
    ofBits? (UInt64.ofNat (word + if negative then twoPow 63 else 0))
  else
    none

/-- The double closest to `±digits · 10^exponent`.

With `8^e ≤ 10^e` a large exponent already takes the number past `2^1024`, and
a small one takes it below `2^-1076`, where zero is the closest double; both are
decided before any power of ten is computed. -/
def ofDecimal? (negative : Bool) (digits : Nat) (exponent : Int) : Option Double :=
  if digits = 0 then
    some (zero negative)
  else
    match exponent with
    | .ofNat e =>
      if 1024 ≤ digits.log2 + 3 * e then none
      else nearest? negative (digits * tenPow e) 1
    | .negSucc e =>
      if digits.log2 + 1077 < 3 * (e + 1) then some (zero negative)
      else nearest? negative digits (tenPow (e + 1))

/-- The double closest to an integer. -/
def ofInt? (n : Int) : Option Double :=
  nearest? (n < 0) n.natAbs 1

end Double

end MarkupTemplate
