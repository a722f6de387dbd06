import Mathlib
import ArchDiagram.Layout.Spread
import ArchDiagram.Proofs.Exact

namespace ArchDiagram

namespace Node

/-- The center of a node, as a point of the plane. -/
noncomputable def center (node : Node ℝ) : ℂ := ⟨node.centerX, node.centerY⟩

noncomputable def moved (v : ℂ) (node : Node ℝ) : Node ℝ :=
  { node with x := node.x + v.re, y := node.y + v.im }

@[simp] theorem center_moved (v : ℂ) (node : Node ℝ) : (node.moved v).center = node.center + v := by
  apply Complex.ext
  · exact add_right_comm _ _ _
  · exact add_right_comm _ _ _

theorem moved_moved (v w : ℂ) (node : Node ℝ) : (node.moved v).moved w = node.moved (v + w) := by
  simp only [moved, Complex.add_re, Complex.add_im, add_assoc]

end Node

namespace Layout

variable {threshold : ℝ} {a b : Node ℝ}

/-- The direction from one node to another, to the right when their centers are one point. -/
noncomputable def heading (a b : Node ℝ) : ℂ :=
  if coincidence < dist a.center b.center then (dist a.center b.center)⁻¹ •
    (b.center - a.center) else 1

/-- The way that the second of two nodes is pushed, half of what is missing to the threshold. -/
noncomputable def thrust (threshold : ℝ) (a b : Node ℝ) : ℂ :=
  ((threshold - dist a.center b.center) / 2) • heading a b

theorem hypot_eq_dist (a b : Node ℝ) :
    Scalar.hypot (b.centerX - a.centerX) (b.centerY - a.centerY) = dist a.center b.center := by
  rw [dist_comm, Complex.dist_eq_re_im]
  rfl

theorem push?_of_far (h : threshold ≤ dist a.center b.center) : push? threshold a b = none := by
  rw [← hypot_eq_dist] at h
  exact if_pos h

theorem thrust_re (threshold : ℝ) (a b : Node ℝ) :
    (thrust threshold a b).re =
      (if coincidence < dist a.center b.center then (b.centerX - a.centerX) / dist a.center b.center
        else 1.0) * ((threshold - dist a.center b.center) / 2.0) := by
  rw [thrust, Complex.smul_re, heading]
  split_ifs
  · rw [Complex.smul_re, Complex.sub_re]
    have hcenter : b.center.re - a.center.re = b.centerX - a.centerX := rfl
    rw [smul_eq_mul, smul_eq_mul, hcenter]
    norm_num
    ring
  · norm_num

theorem thrust_im (threshold : ℝ) (a b : Node ℝ) :
    (thrust threshold a b).im =
      (if coincidence < dist a.center b.center then (b.centerY - a.centerY) / dist a.center b.center
        else 0.0) * ((threshold - dist a.center b.center) / 2.0) := by
  rw [thrust, Complex.smul_im, heading]
  split_ifs
  · rw [Complex.smul_im, Complex.sub_im]
    have hcenter : b.center.im - a.center.im = b.centerY - a.centerY := rfl
    rw [smul_eq_mul, smul_eq_mul, hcenter]
    norm_num
    ring
  · norm_num

/-- The two nodes are pushed in opposite directions. -/
theorem push?_of_close (h : dist a.center b.center < threshold) :
    push? threshold a b =
      some (a.moved (-thrust threshold a b), b.moved (thrust threshold a b)) := by
  have hfar : ¬threshold ≤ dist a.center b.center := not_le.mpr h
  rw [Node.moved, Node.moved, Complex.neg_re, Complex.neg_im, ← sub_eq_add_neg, ← sub_eq_add_neg,
    thrust_re, thrust_im]
  simp only [push?, hypot_eq_dist, if_neg hfar, decide_eq_true_eq]

theorem push?_eq_none_iff : push? threshold a b = none ↔ threshold ≤ dist a.center b.center := by
  refine ⟨fun h => ?_, push?_of_far⟩
  by_contra hfar
  rw [push?_of_close (not_le.mp hfar)] at h
  contradiction

theorem push?_eq_some {pushed : Node ℝ × Node ℝ} (h : push? threshold a b = some pushed) :
    dist a.center b.center < threshold ∧
      pushed = (a.moved (-thrust threshold a b), b.moved (thrust threshold a b)) := by
  have hclose : dist a.center b.center < threshold := by
    by_contra hfar
    rw [push?_of_far (not_lt.mp hfar)] at h
    contradiction
  rw [push?_of_close hclose] at h
  exact ⟨hclose, (Option.some.inj h).symm⟩

/-- How two nodes are pushed does not depend on where the plane begins. -/
theorem thrust_moved (v : ℂ) (threshold : ℝ) (a b : Node ℝ) :
    thrust threshold (a.moved v) (b.moved v) = thrust threshold a b := by
  simp only [thrust, heading, Node.center_moved, dist_add_right, add_sub_add_right_eq_sub]

section Distances

theorem norm_heading (a b : Node ℝ) : ‖heading a b‖ = 1 := by
  rw [heading]
  split_ifs with h
  · have hpos : (0 : ℝ) < dist a.center b.center := by
      refine lt_of_le_of_lt ?_ h
      norm_num [coincidence]
    rw [norm_smul, norm_inv, Real.norm_of_nonneg hpos.le, ← dist_eq_norm, dist_comm b.center]
    exact inv_mul_cancel₀ hpos.ne'
  · exact norm_one

theorem norm_thrust (h : dist a.center b.center ≤ threshold) :
    ‖thrust threshold a b‖ = (threshold - dist a.center b.center) / 2 := by
  have hnonneg : 0 ≤ (threshold - dist a.center b.center) / 2 := by linarith
  rw [thrust, norm_smul, norm_heading, mul_one, Real.norm_of_nonneg hnonneg]

/-- A push moves neither node by more than half the threshold. -/
theorem norm_thrust_le (h : dist a.center b.center ≤ threshold) :
    ‖thrust threshold a b‖ ≤ threshold / 2 := by
  have hnonneg : 0 ≤ dist a.center b.center := dist_nonneg
  rw [norm_thrust h]
  linarith

/-- Between two centers that are neither the same nor almost the same, the way leads along the
heading. -/
theorem sub_eq_smul_heading
    (h : dist a.center b.center = 0 ∨ coincidence < dist a.center b.center) :
    b.center - a.center = dist a.center b.center • heading a b := by
  rcases h with h | h
  · rw [h, zero_smul, sub_eq_zero]
    exact (dist_eq_zero.mp h).symm
  · have hne : dist a.center b.center ≠ 0 := by
      intro hzero
      norm_num [hzero, coincidence] at h
    rw [heading, if_pos h, smul_inv_smul₀ hne]

/-- A push leaves two nodes exactly as far apart as they have to be. -/
theorem dist_pushed (h : dist a.center b.center = 0 ∨ coincidence < dist a.center b.center)
    (hclose : dist a.center b.center ≤ threshold) :
    dist (a.moved (-thrust threshold a b)).center (b.moved (thrust threshold a b)).center =
      threshold := by
  have hnonneg : 0 ≤ threshold := dist_nonneg.trans hclose
  have hway : b.center + thrust threshold a b - (a.center + -thrust threshold a b) =
      threshold • heading a b := by
    calc b.center + thrust threshold a b - (a.center + -thrust threshold a b)
        = (b.center - a.center) + (thrust threshold a b + thrust threshold a b) := by ring
      _ = dist a.center b.center • heading a b + (threshold - dist a.center b.center) •
        heading a b := by
        rw [sub_eq_smul_heading h, thrust, ← add_smul, add_halves]
      _ = threshold • heading a b := by rw [← add_smul, add_sub_cancel]
  rw [Node.center_moved, Node.center_moved, dist_comm, dist_eq_norm, hway, norm_smul, norm_heading,
    mul_one, Real.norm_of_nonneg hnonneg]

theorem midpoint_pushed (v : ℂ) (a b : Node ℝ) :
    midpoint ℝ (a.moved (-v)).center (b.moved v).center = midpoint ℝ a.center b.center := by
  rw [Node.center_moved, Node.center_moved, midpoint_eq_smul_add, midpoint_eq_smul_add]
  congr 1
  ring

end Distances

end Layout

end ArchDiagram
