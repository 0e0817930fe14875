import MarkupTemplate.Number.Shortest
/-!
# Number text — how a double is written

A double is written with its shortest digits: positionally for magnitudes from
`1e-5` up to `1e16`, with at least one digit on each side of the point, and
otherwise in scientific form with a signed exponent.
-/

namespace MarkupTemplate

/-- The digits of a decimal without trailing zeros, and the power of ten of the
first of them. -/
def Decimal.scientific (d : Decimal) : List Char × Int :=
  let digits := Nat.toDigits 10 d.digits
  let kept := (digits.reverse.dropWhile (· == '0')).reverse
  (if kept.isEmpty then ['0'] else kept, (d.exponent : Int) + digits.length - 351)

namespace Double

/-- The powers of ten of the leading digit that are written positionally. -/
def isPositional (power : Int) : Bool :=
  -5 ≤ power && power < 16

/-- Digits with the point where the power of ten of the first one puts it. -/
def positional (digits : List Char) (power : Int) : List Char :=
  if power < 0 then
    '0' :: '.' :: (List.replicate (power.natAbs - 1) '0' ++ digits)
  else
    let whole := power.toNat + 1
    let fraction := digits.drop whole
    digits.take whole ++ List.replicate (whole - digits.length) '0' ++
      '.' :: (if fraction.isEmpty then ['0'] else fraction)

/-- One digit before the point, if any stand behind it, and a signed
exponent. -/
def scientific (digits : List Char) (power : Int) : List Char :=
  let fraction := digits.drop 1
  let sign := if power < 0 then '-' else '+'
  digits.take 1 ++ (if fraction.isEmpty then [] else '.' :: fraction) ++
    'e' :: sign :: Nat.toDigits 10 power.natAbs

/-- The text of the magnitude. -/
def magnitudeText (x : Double) : List Char :=
  if x.isZero then
    ['0', '.', '0']
  else
    let (digits, power) := x.decimal.scientific
    if isPositional power then positional digits power else scientific digits power

/-- The text of a double; it always has a point or an exponent. -/
def toText (x : Double) : List Char :=
  if x.isNegative then '-' :: x.magnitudeText else x.magnitudeText

end Double

end MarkupTemplate
