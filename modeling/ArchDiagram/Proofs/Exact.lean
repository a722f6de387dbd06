import Mathlib
import ArchDiagram.Proofs.Decimal.Nearest

namespace ArchDiagram

theorem le_roundAway {x : ℝ} {n : ℤ} (h : n ≤ x) : n ≤ roundAway x := by
  have herror := (abs_le.mp (roundAway_error x)).2
  have hnear : (n : ℝ) - 1 < roundAway x := by linarith
  have hlt : n - 1 < roundAway x := by exact_mod_cast hnear
  omega

theorem roundAway_le {x : ℝ} {n : ℤ} (h : x ≤ n) : roundAway x ≤ n := by
  have herror := (abs_le.mp (roundAway_error x)).1
  have hnear : (roundAway x : ℝ) < n + 1 := by linarith
  have hlt : roundAway x < n + 1 := by exact_mod_cast hnear
  omega

/-- Numbers in the signed 64-bit range are stored as the integers next to them. -/
theorem saturated_roundAway {x : ℝ} (hlow : -9223372036854775808 ≤ x)
    (hhigh : x ≤ 9223372036854775807) :
    saturated (roundAway x) = roundAway x := by
  have hleast : -9223372036854775808 ≤ roundAway x := le_roundAway (by exact_mod_cast hlow)
  have hmost : roundAway x ≤ 9223372036854775807 := roundAway_le (by exact_mod_cast hhigh)
  rw [saturated]
  omega

namespace Scalar

/-- The real numbers, with any two functions for sine and cosine. -/
noncomputable abbrev real (sin cos : ℝ → ℝ) : Scalar ℝ where
  decLe := fun _ _ => Classical.dec _
  decLt := fun _ _ => Classical.dec _
  hypot x y := Real.sqrt (x ^ 2 + y ^ 2)
  sin
  cos
  nearest x := saturated (roundAway x)

end Scalar

noncomputable instance : Scalar ℝ := Scalar.real Real.sin Real.cos

namespace Scalar

theorem max_eq (a b : ℝ) : Scalar.max a b = Max.max a b := by
  rw [Scalar.max]
  split_ifs with h h'
  · exact (max_eq_left h).symm
  · exact (max_eq_right (le_of_not_ge h)).symm
  · exact absurd le_rfl h'

theorem min_eq (a b : ℝ) : Scalar.min a b = Min.min a b := by
  rw [Scalar.min]
  split_ifs with h h'
  · exact (min_eq_left h).symm
  · exact (min_eq_right (le_of_not_ge h)).symm
  · exact absurd le_rfl h'

end Scalar

end ArchDiagram
