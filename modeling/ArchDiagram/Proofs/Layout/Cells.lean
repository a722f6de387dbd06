import Mathlib
import ArchDiagram.Proofs.Layout.Extent.Grid

namespace ArchDiagram.Layout

section Counts

variable {n slot columns : ℕ}

theorem ceilSqrt_pos (h : 0 < n) : 0 < ceilSqrt n := by
  have hle := le_ceilSqrt_mul_self n
  by_contra hz
  rw [Nat.eq_zero_of_not_pos hz] at hle
  omega

/-- A root is rounded up by less than one. -/
theorem ceilSqrt_pred_mul_self_lt (h : 0 < n) : (ceilSqrt n - 1) * (ceilSqrt n - 1) < n := by
  obtain ⟨hlow, hhigh⟩ := floorSqrt_bounds n
  rw [ceilSqrt]
  split_ifs with hroot
  · cases hr : floorSqrt n with
    | zero => simpa using h
    | succ r =>
      rw [hr] at hroot
      calc (r + 1 - 1) * (r + 1 - 1) = r * r := by simp
        _ < (r + 1) * (r + 1) := by nlinarith
        _ = n := hroot
  · rw [Nat.add_sub_cancel]
    omega

theorem tightened_pos (compact : Bool) (h : 0 < columns) : 0 < tightened compact columns := by
  rw [tightened]
  split_ifs
  · exact Nat.lt_of_lt_of_le Nat.one_pos (Nat.le_max_right _ _)
  · exact h

theorem nearestBinary_pos (h : 0 < n) : 0 < nearestBinary n := by
  have hunit : 0 < Decimal.twoTo (n.log2 + 1 - precision) := Nat.pow_pos Nat.two_pos
  have hle : Decimal.twoTo (n.log2 + 1 - precision) ≤ n := by
    refine (Nat.pow_le_pow_right Nat.two_pos ?_).trans (Nat.log2_self_le h.ne')
    rw [precision]
    omega
  have hround : 0 < Decimal.roundHalfEven n (Decimal.twoTo (n.log2 + 1 - precision)) := by
    have hquotient := Nat.div_pos hle hunit
    rw [Decimal.roundHalfEven]
    split_ifs <;> omega
  exact Nat.mul_pos hround hunit

theorem floorSqrt_pos (h : 0 < n) : 0 < floorSqrt n := by
  obtain ⟨-, hhigh⟩ := floorSqrt_bounds n
  by_contra hz
  rw [Nat.eq_zero_of_not_pos hz] at hhigh
  omega

theorem ceilBinarySqrt_pos (h : 0 < n) : 0 < ceilBinarySqrt n := by
  rw [ceilBinarySqrt]
  generalize hu : Decimal.twoTo (precision - 1 - (floorSqrt (nearestBinary n)).log2) = unit
  have hunit : 0 < unit := hu ▸ Nat.pow_pos Nat.two_pos
  have hroot : 0 < floorSqrt (nearestBinary n * (unit * unit)) :=
    floorSqrt_pos (Nat.mul_pos (nearestBinary_pos h) (Nat.mul_pos hunit hunit))
  refine Nat.div_pos ?_ hunit
  split_ifs <;> omega

theorem containerColumns_pos (compact : Bool) (h : 0 < n) : 0 < containerColumns n compact := by
  refine tightened_pos compact ?_
  split_ifs
  · exact Nat.one_pos
  · exact Nat.two_pos
  · exact Nat.succ_pos 2
  · exact ceilBinarySqrt_pos h

theorem lt_rowsFor (hc : 0 < columns) (h : slot < n) : slot / columns < rowsFor n columns := by
  have hnext : slot / columns + 1 = (slot + columns) / columns := (Nat.add_div_right slot hc).symm
  rw [rowsFor, ← Nat.succ_le_iff, Nat.succ_eq_add_one, hnext]
  exact Nat.div_le_div_right (by omega)

/-- Different slots of a grid are in different columns or in different rows. -/
theorem mod_ne_or_div_ne {other : ℕ} (h : slot ≠ other) (columns : ℕ) :
    slot % columns ≠ other % columns ∨ slot / columns ≠ other / columns := by
  by_contra hsame
  rw [not_or, not_not, not_not] at hsame
  apply h
  rw [← Nat.div_add_mod slot columns, ← Nat.div_add_mod other columns, hsame.1, hsame.2]

/-- The inside of a container is wide enough for a column of 170 for every root of its count, with
nothing to spare for two nodes. -/
theorem columns_fit (h : 0 < n) : 170 * ceilSqrt n ≤ 220 + 60 * n := by
  have hlt := ceilSqrt_pred_mul_self_lt h
  obtain ⟨c, hc⟩ := Nat.exists_eq_succ_of_ne_zero (ceilSqrt_pos h).ne'
  rw [hc] at hlt ⊢
  rw [Nat.succ_eq_add_one, Nat.add_sub_cancel] at hlt
  rcases c with _ | _ | c
  · omega
  · omega
  · nlinarith

/-- The inside of a container is high enough for its rows, each of 120, with nothing to spare for
three nodes. -/
theorem rows_fit (n : ℕ) : 120 * rowsFor n (ceilSqrt n) ≤ 120 + 40 * n := by
  have hcount := rowsFor_le n (ceilSqrt n)
  have hsquare := le_ceilSqrt_mul_self n
  have hrows := Nat.div_mul_le_self (n + ceilSqrt n - 1) (ceilSqrt n)
  rw [← rowsFor] at hrows
  generalize rowsFor n (ceilSqrt n) = rows at hcount hrows ⊢
  generalize ceilSqrt n = c at hsquare hrows
  rcases c with _ | _ | _ | c
  · omega
  · omega
  · omega
  · cases rows with
    | zero => omega
    | succ r =>
      have hwide : r * 3 ≤ r * (c + 1 + 1 + 1) := Nat.mul_le_mul_left r (by omega)
      rw [Nat.succ_mul] at hrows
      omega

end Counts

section Measures

variable {measures : List ℝ} {x start : ℝ}

theorem le_foldl_max (h : x ≤ start ∨ x ∈ measures) : x ≤ measures.foldl Scalar.max start := by
  induction measures generalizing start with
  | nil => exact h.resolve_right List.not_mem_nil
  | cons y measures ih =>
    rw [List.foldl_cons, Scalar.max_eq]
    refine ih ?_
    rcases h with h | h
    · exact Or.inl (h.trans (le_max_left _ _))
    · rcases List.mem_cons.mp h with rfl | h
      · exact Or.inl (le_max_right _ _)
      · exact Or.inr h

theorem le_largest (h : x ∈ measures) : x ≤ largest measures := le_foldl_max (Or.inr h)

theorem largest_nonneg (measures : List ℝ) : 0 ≤ largest measures :=
  le_foldl_max (Or.inl (by norm_num))

end Measures

def Box.ofContainer (c : Container ℝ) : Box ℝ := ⟨c.x, c.y, c.x + c.width, c.y + c.height⟩

/-- A line that runs down or across keeps the rectangles apart, so that their interiors have no
common point. -/
def Box.Apart (a b : Box ℝ) : Prop :=
  a.right ≤ b.left ∨ b.right ≤ a.left ∨ a.bottom ≤ b.top ∨ b.bottom ≤ a.top

theorem Box.Apart.symm {a b : Box ℝ} (h : a.Apart b) : b.Apart a := by
  rw [Box.Apart] at h ⊢
  tauto

/-- Cells of one size in columns and rows. -/
structure Cells where
  originX : ℝ
  originY : ℝ
  pitchX : ℝ
  pitchY : ℝ
  pitchX_nonneg : 0 ≤ pitchX
  pitchY_nonneg : 0 ≤ pitchY

/-- A rectangle lies in a cell. -/
structure Cells.Holds (cells : Cells) (column row : ℕ) (box : Box ℝ) : Prop where
  left : cells.originX + column * cells.pitchX ≤ box.left
  top : cells.originY + row * cells.pitchY ≤ box.top
  right : box.right ≤ cells.originX + (column + 1) * cells.pitchX
  bottom : box.bottom ≤ cells.originY + (row + 1) * cells.pitchY

namespace Cells

variable {cells : Cells} {a b : Box ℝ} {column column' row row' : ℕ}

/-- One cell ends before a later one begins. -/
theorem end_le_start {i j : ℕ} {pitch : ℝ} (hp : 0 ≤ pitch) (h : i < j) :
    ((i : ℝ) + 1) * pitch ≤ j * pitch := by
  have hcast : (i : ℝ) + 1 ≤ j := by exact_mod_cast h
  exact mul_le_mul_of_nonneg_right hcast hp

theorem Holds.apart (ha : cells.Holds column row a) (hb : cells.Holds column' row' b)
    (h : column ≠ column' ∨ row ≠ row') : a.Apart b := by
  rcases h with h | h
  · rcases Nat.lt_or_gt_of_ne h with h | h
    · have hgap := end_le_start cells.pitchX_nonneg h
      exact Or.inl (by linarith [ha.right, hb.left])
    · have hgap := end_le_start cells.pitchX_nonneg h
      exact Or.inr (Or.inl (by linarith [ha.left, hb.right]))
  · rcases Nat.lt_or_gt_of_ne h with h | h
    · have hgap := end_le_start cells.pitchY_nonneg h
      exact Or.inr (Or.inr (Or.inl (by linarith [ha.bottom, hb.top])))
    · have hgap := end_le_start cells.pitchY_nonneg h
      exact Or.inr (Or.inr (Or.inr (by linarith [ha.top, hb.bottom])))

end Cells

end ArchDiagram.Layout
