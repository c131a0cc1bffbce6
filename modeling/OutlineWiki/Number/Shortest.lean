import OutlineWiki.Number.Binary64

/-!
# The shortest text of a double

A double is written with the fewest decimal digits that read back as the same double, and of those
with the digits nearest to it. Numbers from 0.0001 up to, not including, 10^16 are written with a
point and no exponent; all others with one digit before the point and an exponent of at least two
digits.
-/

namespace OutlineWiki.Binary64

/-- A decimal `0.d₁d₂…dₙ * 10 ^ point`, given by the whole number `d₁d₂…dₙ`. -/
structure DecimalDigits where
  digits : List Char
  point : Int
deriving DecidableEq, Repr

/-- The interval of reals that round to a positive double, in units of `2 ^ (exponent - 2)`. The
step below a power of two is half the step above it. -/
structure RoundingInterval where
  low : Nat
  middle : Nat
  high : Nat
  endsIncluded : Bool

/-- The interval around the double `significand * 2 ^ exponent`. -/
def RoundingInterval.around (significand : Nat) (exponent : Int) : RoundingInterval where
  low := if significand = Nat.pow 2 52 ∧ exponent > leastExponent then 4 * significand - 1
    else 4 * significand - 2
  middle := 4 * significand
  high := 4 * significand + 2
  endsIncluded := significand % 2 == 0

/-- Whether a point of the interval's line, given as a quotient, lies in the interval. -/
def RoundingInterval.holds (interval : RoundingInterval) (numerator denominator : Nat) : Bool :=
  if interval.endsIncluded then
    Nat.ble (interval.low * denominator) numerator && Nat.ble numerator (interval.high * denominator)
  else
    Nat.blt (interval.low * denominator) numerator && Nat.blt numerator (interval.high * denominator)

/-- The decimal of `count` digits that rounds to the double, if there is one: of the two decimals
next to it the one in the interval, the nearer one if both are. -/
def decimalOfLength? (interval : RoundingInterval) (exponent point : Int) (count : Nat) : Option Nat :=
  -- One unit of the decimal's last place is `stepNumerator / stepDenominator` of the interval's units.
  let power := point - count
  let stepNumerator := Nat.pow 10 power.toNat * Nat.pow 2 (2 - exponent).toNat
  let stepDenominator := Nat.pow 10 (-power).toNat * Nat.pow 2 (exponent - 2).toNat
  let below := interval.middle * stepDenominator / stepNumerator
  let above := below + 1
  let belowFits := interval.holds (below * stepNumerator) stepDenominator
  let aboveFits := interval.holds (above * stepNumerator) stepDenominator
  let belowGap := interval.middle * stepDenominator - below * stepNumerator
  let aboveGap := above * stepNumerator - interval.middle * stepDenominator
  match belowFits, aboveFits with
  | true, true =>
    if Nat.blt belowGap aboveGap || (belowGap == aboveGap && below % 2 == 0) then some below
    else some above
  | true, false => some below
  | false, true => some above
  | false, false => none

/-- The number of decimal places before the point of a positive double, negative for zeros after it:
the double lies between `10 ^ (point - 1)` and `10 ^ point`. -/
def decimalPoint (significand : Nat) (exponent : Int) : Int :=
  let scaled := significand * Nat.pow 2 exponent.toNat * Nat.pow 10 400 / Nat.pow 2 (-exponent).toNat
  (Nat.toDigits 10 scaled).length - 400

/-- The shortest decimal of a positive double. Seventeen digits always suffice. -/
def shortestDigits (significand : Nat) (exponent : Int) : DecimalDigits :=
  let interval := RoundingInterval.around significand exponent
  let point := decimalPoint significand exponent
  let found := (List.range 17).findSome? fun index =>
    (decimalOfLength? interval exponent point (index + 1)).map fun value => (index + 1, value)
  let (count, value) := found.getD (17, 0)
  let digits := Nat.toDigits 10 value
  -- Rounding up to a power of ten gives one more digit.
  let carried := digits.length - count
  { digits := (digits.reverse.dropWhile (· == '0')).reverse, point := point + carried }

/-- The digits with a point and no exponent. -/
def positional (decimal : DecimalDigits) : List Char :=
  let count : Int := decimal.digits.length
  if decimal.point ≤ 0 then
    '0' :: '.' :: (List.replicate (-decimal.point).toNat '0' ++ decimal.digits)
  else if count ≤ decimal.point then
    decimal.digits ++ List.replicate (decimal.point - count).toNat '0' ++ ['.', '0']
  else
    decimal.digits.take decimal.point.toNat ++ '.' :: decimal.digits.drop decimal.point.toNat

/-- The digits with one of them before the point, and an exponent. -/
def scientific (decimal : DecimalDigits) : List Char :=
  let power := decimal.point - 1
  let fraction :=
    match decimal.digits with
    | [] => []
    | [digit] => [digit]
    | digit :: more => digit :: '.' :: more
  let exponentDigits := Nat.toDigits 10 power.natAbs
  let padded := if exponentDigits.length < 2 then '0' :: exponentDigits else exponentDigits
  fraction ++ 'e' :: (if power < 0 then '-' else '+') :: padded

/-- The magnitude of a finite double as text. -/
def magnitudeText (significand : Nat) (exponent : Int) : String :=
  if significand = 0 then "0.0"
  else
    let decimal := shortestDigits significand exponent
    .ofList (if -4 < decimal.point ∧ decimal.point ≤ 16 then positional decimal else scientific decimal)

/-- The text of a double, with the given words for what is not finite. -/
def toText (nanText infinityText : String) : Binary64 → String
  | .nan => nanText
  | .infinite negative => if negative then "-" ++ infinityText else infinityText
  | .finite negative significand exponent =>
    if negative then "-" ++ magnitudeText significand exponent else magnitudeText significand exponent

end OutlineWiki.Binary64
