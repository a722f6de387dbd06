import Mathlib.Algebra.Order.Round
import Mathlib.Data.Rat.Floor
import Mathlib.Tactic.FieldSimp
import Mathlib.Tactic.Linarith
import Mathlib.Tactic.Positivity
import Mathlib.Tactic.Ring
import ArchDiagram.Scalar
import ArchDiagram.Source.Scan

namespace ArchDiagram

section Rounding

variable {R : Type*} [Field R] [LinearOrder R] [FloorRing R]

/-- The integer next to a number, of two equally near ones that which is farther from zero. -/
def roundAway (x : R) : ℤ := if 0 ≤ x then round x else -round (-x)

variable [IsStrictOrderedRing R]

theorem roundAway_error (x : R) : |x - roundAway x| ≤ 1 / 2 := by
  rw [roundAway]
  split_ifs
  · exact abs_sub_round x
  · have h := abs_sub_round (-x)
    rw [← abs_neg, Int.cast_neg]
    rwa [show -(x - -(round (-x) : R)) = -x - round (-x) by ring]

/-- A sign does not matter for how a number is rounded. -/
theorem roundAway_signed (negative : Bool) {x : R} (hx : 0 ≤ x) :
    roundAway ((if negative then -1 else 1) * x) = if negative then -round x else round x := by
  cases negative with
  | false => simp [roundAway, hx]
  | true =>
    rcases hx.eq_or_lt with rfl | hpos
    · simp [roundAway]
    · rw [roundAway, if_neg (by simpa using hpos)]
      simp

end Rounding

namespace Decimal

def Binary.value (b : Binary) : ℚ :=
  (if b.negative then -1 else 1) * (b.significand * 2 ^ b.exponent)

/-- A half is added to a quotient before it is cut off. -/
theorem round_mul_inv (n : ℕ) {t : ℕ} (ht : 0 < t) :
    round ((n : ℚ) * (t : ℚ)⁻¹) = ((2 * n + t) / (2 * t) : ℕ) := by
  have hpos : (0 : ℚ) < t := Nat.cast_pos.mpr ht
  have hq : (n : ℚ) * (t : ℚ)⁻¹ + 1 / 2 = ((2 * n + t : ℕ) : ℚ) / ((2 * t : ℕ) : ℚ) := by
    push_cast
    field_simp
  rw [round_eq, hq, Rat.floor_natCast_div_natCast]
  rfl

theorem cast_twoTo (n : ℕ) : ((twoTo n : ℕ) : ℚ) = 2 ^ (n : ℤ) := by
  rw [twoTo, Nat.pow_eq, Nat.cast_pow, zpow_natCast]
  rfl

theorem Binary.nearest_eq (b : Binary) : b.nearest = roundAway b.value := by
  have hround : round (b.significand * 2 ^ b.exponent : ℚ) =
      ((if 0 ≤ b.exponent then b.significand * twoTo b.exponent.toNat
        else (2 * b.significand + twoTo (-b.exponent).toNat) /
          (2 * twoTo (-b.exponent).toNat) : ℕ) : ℤ) := by
    split_ifs with he
    · have hp : (2 : ℚ) ^ b.exponent = (twoTo b.exponent.toNat : ℕ) := by
        rw [cast_twoTo, Int.toNat_of_nonneg he]
      rw [hp, ← Nat.cast_mul]
      exact round_natCast _
    · have hp : (2 : ℚ) ^ b.exponent = ((twoTo (-b.exponent).toNat : ℕ) : ℚ)⁻¹ := by
        rw [cast_twoTo, Int.toNat_of_nonneg (by omega), zpow_neg, inv_inv]
      rw [hp]
      exact round_mul_inv _ (Nat.two_pow_pos _)
  have hsize : (0 : ℚ) ≤ b.significand * 2 ^ b.exponent :=
    mul_nonneg (Nat.cast_nonneg _) (zpow_nonneg (by norm_num) _)
  rw [value, roundAway_signed _ hsize, hround]
  rfl

end Decimal

/-- The end of the signed 64-bit range on whose other side a number lies, else the number. -/
def saturated (n : ℤ) : ℤ := max (-9223372036854775808) (min n 9223372036854775807)

theorem floatNearest_of_finite {x : Float} (h : x.isFinite = true) :
    floatNearest x = saturated (roundAway (Decimal.Binary.ofFloat x).value) := by
  have hn : x.isNaN = false := by
    change x.toModel.unpack.isFinite = true at h
    change x.toModel.unpack.isNaN = false
    cases hu : x.toModel.unpack with
    | notANumber =>
      rw [hu] at h
      exact absurd h Bool.false_ne_true
    | _ => rfl
  rw [floatNearest, hn, ← Decimal.Binary.nearest_eq]
  rfl

theorem inRange_saturated (n : ℤ) : Source.Scan.inRange (saturated n) = true := by
  rw [saturated, Source.Scan.inRange]
  simp only [Bool.and_eq_true, decide_eq_true_eq]
  omega

theorem floatNearest_inRange (x : Float) : Source.Scan.inRange (floatNearest x) = true := by
  rw [floatNearest, Source.Scan.inRange]
  split_ifs
  · decide
  · simp only [Bool.and_eq_true, decide_eq_true_eq]
    omega

end ArchDiagram
