/-!
# Binary floating-point numbers

Numbers with a point or an exponent are read as IEEE 754 double precision numbers. A finite number
is a sign, a significand below `2 ^ 53` and a power of two, so every question about it (nearest
number to a decimal, comparison, shortest text) is settled in exact integer arithmetic.
-/

namespace OutlineWiki

/-- A double precision number. A finite one stands for `significand * 2 ^ exponent` with its sign;
the significand has 53 binary digits unless the exponent is the least one, -1074. -/
inductive Binary64 where
  | nan
  | infinite (negative : Bool)
  | finite (negative : Bool) (significand : Nat) (exponent : Int)
deriving DecidableEq, Inhabited, Repr

namespace Binary64

/-- The exponent of the smallest numbers and of zero. -/
def leastExponent : Int := -1074

/-- The exponent of the largest finite numbers. -/
def greatestExponent : Int := 971

/-- Zero, which has a sign of its own. -/
def zero (negative : Bool) : Binary64 :=
  .finite negative 0 leastExponent

/-- The whole number nearest to a quotient; a tie goes to the even one. -/
def roundHalfEven (numerator denominator : Nat) : Nat :=
  let quotient := numerator / denominator
  let twice := 2 * (numerator % denominator)
  if denominator < twice ∨ (twice = denominator ∧ quotient % 2 = 1) then quotient + 1 else quotient

/-- The largest power of two that does not exceed a positive quotient, as its exponent. -/
def binaryLogarithm (numerator denominator : Nat) : Int :=
  let estimate : Int := (Nat.log2 numerator : Int) - Nat.log2 denominator
  let tooLarge :=
    if 0 ≤ estimate then Nat.blt numerator (denominator * Nat.pow 2 estimate.toNat)
    else Nat.blt (numerator * Nat.pow 2 (-estimate).toNat) denominator
  if tooLarge then estimate - 1 else estimate

/-- The double nearest to a quotient, a tie going to the even significand; a quotient beyond the
largest finite number gives an infinity. -/
def ofRatio (negative : Bool) (numerator denominator : Nat) : Binary64 :=
  if numerator = 0 then zero negative
  else
    let exponent := max (binaryLogarithm numerator denominator - 52) leastExponent
    let significand :=
      roundHalfEven (numerator * Nat.pow 2 (-exponent).toNat) (denominator * Nat.pow 2 exponent.toNat)
    if significand = Nat.pow 2 53 then
      if exponent + 1 > greatestExponent then .infinite negative
      else .finite negative (Nat.pow 2 52) (exponent + 1)
    else if exponent > greatestExponent then .infinite negative
    else .finite negative significand exponent

/-- The double nearest to `digits * 10 ^ power`. Decimals far outside the range of doubles are
answered without computing the power. -/
def ofDecimal (negative : Bool) (digits : Nat) (power : Int) : Binary64 :=
  let magnitude := (Nat.toDigits 10 digits).length + power
  if digits = 0 ∨ magnitude < -330 then zero negative
  else if magnitude > 330 then .infinite negative
  else ofRatio negative (digits * Nat.pow 10 power.toNat) (Nat.pow 10 (-power).toNat)

/-- Whether a number is zero, of either sign. -/
def isZero : Binary64 → Bool
  | .finite _ significand _ => significand == 0
  | _ => false

/-- Whether a number is at least a whole number; a NaN is not. -/
def atLeast (bound : Nat) : Binary64 → Bool
  | .nan => false
  | .infinite negative => !negative
  | .finite negative significand exponent =>
    if negative then significand == 0 && bound == 0
    else Nat.ble (bound * Nat.pow 2 (-exponent).toNat) (significand * Nat.pow 2 exponent.toNat)

/-- Whether a number is at most a whole number; a NaN is not. -/
def atMost (bound : Nat) : Binary64 → Bool
  | .nan => false
  | .infinite negative => negative
  | .finite negative significand exponent =>
    negative || Nat.ble (significand * Nat.pow 2 exponent.toNat) (bound * Nat.pow 2 (-exponent).toNat)

end Binary64

end OutlineWiki
