import Mathlib.Algebra.Order.Field.Power
import Mathlib.Algebra.Order.Field.Rat
import Mathlib.Tactic.Positivity
import OutlineWiki.Document.Decode

/-!
# Values as numbers

The rational number that a JSON value stands for where it is compared with a number. Comparisons of
doubles with whole numbers are made on integers that are scaled by a power of two; here they are seen to
be the comparisons of the numbers themselves.
-/

namespace OutlineWiki

/-- The number that a finite double stands for. -/
def Binary64.value? : Binary64 → Option ℚ
  | .nan | .infinite _ => none
  | .finite negative significand exponent =>
    some ((if negative then -1 else 1) * (significand * 2 ^ exponent))

/-- The number that a value counts as where numbers are compared; truth values count as zero and one. -/
def Json.number? : Json → Option ℚ
  | .bool value => some (if value then 1 else 0)
  | .int value => some value
  | .float value => value.value?
  | .null | .string _ | .array _ | .object _ => none

/-- A power of two, scaled by a power that makes it whole. -/
theorem zpow_two_mul_toNat (exponent : ℤ) :
    (2 : ℚ) ^ exponent * 2 ^ (-exponent).toNat = 2 ^ exponent.toNat := by
  obtain ⟨size, rfl | rfl⟩ := exponent.eq_nat_or_neg
  · simp
  · simp

/-- A whole number is at most a scaled significand when both are scaled to whole numbers. -/
theorem le_scaled_iff (bound significand : ℕ) (exponent : ℤ) :
    Nat.ble (bound * Nat.pow 2 (-exponent).toNat) (significand * Nat.pow 2 exponent.toNat) = true ↔
      (bound : ℚ) ≤ significand * 2 ^ exponent := by
  have positive : (0 : ℚ) < 2 ^ (-exponent).toNat := by positivity
  rw [Nat.ble_eq, ← mul_le_mul_iff_left₀ positive, mul_assoc, zpow_two_mul_toNat]
  norm_cast

/-- A scaled significand is at most a whole number when both are scaled to whole numbers. -/
theorem scaled_le_iff (bound significand : ℕ) (exponent : ℤ) :
    Nat.ble (significand * Nat.pow 2 exponent.toNat) (bound * Nat.pow 2 (-exponent).toNat) = true ↔
      (significand * 2 ^ exponent : ℚ) ≤ bound := by
  have positive : (0 : ℚ) < 2 ^ (-exponent).toNat := by positivity
  rw [Nat.ble_eq, ← mul_le_mul_iff_left₀ positive, mul_assoc, zpow_two_mul_toNat]
  norm_cast

/-- A double lies between two whole numbers, the lower one positive, when the number it stands for does;
no number that is not finite lies between any. -/
theorem Binary64.between_iff (number : Binary64) {low : ℕ} (positive : 0 < low) (high : ℕ) :
    (number.atLeast low && number.atMost high) = true ↔
      ∃ value, number.value? = some value ∧ low ≤ value ∧ value ≤ high := by
  cases number with
  | nan => simp [atLeast, value?]
  | infinite negative => cases negative <;> simp [atLeast, atMost, value?]
  | finite negative significand exponent =>
    cases negative with
    | false =>
      simp only [atLeast, atMost, value?, Bool.false_eq_true, if_false, Bool.false_or, one_mul,
        Bool.and_eq_true, le_scaled_iff, scaled_le_iff, Option.some.injEq, exists_eq_left']
    | true =>
      have notPositive : -(significand * 2 ^ exponent : ℚ) ≤ 0 := by
        rw [neg_nonpos]
        positivity
      have below : ¬ (low : ℚ) ≤ -(significand * 2 ^ exponent) := by
        have : (0 : ℚ) < low := by exact_mod_cast positive
        exact fun above => absurd (this.trans_le (above.trans notPositive)) (lt_irrefl 0)
      simp [atLeast, value?, below, Nat.pos_iff_ne_zero.mp positive]

/-- A level is accepted when it is a number from one to six. -/
theorem checkLevel_eq_ok {level : Json} :
    checkLevel level = .ok () ↔ ∃ number, level.number? = some number ∧ 1 ≤ number ∧ number ≤ 6 := by
  cases level with
  | bool value => cases value <;> simp [checkLevel, Json.number?]
  | int value =>
    have same : ((1 : ℚ) ≤ value ∧ (value : ℚ) ≤ 6) ↔ (1 ≤ value ∧ value ≤ 6) := by norm_cast
    simp only [checkLevel, Json.number?, Option.some.injEq, exists_eq_left', same]
    split
    case isTrue fits => simpa using fits
    case isFalse tooFar => simpa only [reduceCtorEq, false_iff] using tooFar
  | float value =>
    have between := value.between_iff Nat.one_pos 6
    simp only [checkLevel, Json.number?]
    split
    case isTrue fits => simpa using between.mp fits
    case isFalse tooFar => simpa using fun fits => tooFar (between.mpr fits)
  | null | string | array | object => simp [checkLevel, Json.number?]

/-- A value equals one when it is a number that does. -/
theorem Json.isOne_iff {value : Json} : value.isOne = true ↔ value.number? = some 1 := by
  cases value with
  | bool value => cases value <;> simp [isOne, number?]
  | int value => simp [isOne, number?]
  | float value =>
    simp only [isOne, number?]
    rw [value.between_iff Nat.one_pos 1, Nat.cast_one]
    constructor
    · rintro ⟨number, isNumber, low, high⟩
      rw [isNumber, le_antisymm high low]
    · exact fun isOne => ⟨1, isOne, le_rfl, le_rfl⟩
  | null | string | array | object => simp [isOne, number?]

end OutlineWiki
