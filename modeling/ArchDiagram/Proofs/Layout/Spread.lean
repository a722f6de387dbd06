import Mathlib
import ArchDiagram.Proofs.Layout.Push
import ArchDiagram.Proofs.Layout.Unmoved
import ArchDiagram.Proofs.Redrawn

namespace ArchDiagram.Layout

section Count

variable {α : Type} [Scalar α]

theorem count_against_le (threshold : α) (a : Node α) (nodes : List (Node α)) :
    (against threshold a nodes).2.2 ≤ nodes.length := by
  induction nodes generalizing a with
  | nil => exact le_rfl
  | cons b rest ih =>
    rw [against, List.length_cons]
    cases push? threshold a b with
    | none => exact (ih a).trans (Nat.le_succ _)
    | some pushed => exact Nat.succ_le_succ (ih pushed.1)

/-- No pair is pushed twice. -/
theorem count_sweep_le (threshold : α) (nodes : List (Node α)) :
    (sweep threshold nodes).2 ≤ nodes.length.choose 2 := by
  fun_induction sweep threshold nodes with
  | case1 => exact le_rfl
  | case2 a rest first others ih =>
    have hfirst : first.2.2 ≤ rest.length := count_against_le threshold a rest
    rw [length_against] at ih
    rw [List.length_cons, Nat.choose_succ_succ, Nat.choose_one_right]
    exact Nat.add_le_add hfirst ih

end Count

section Sums

variable {α β : Type} [Scalar α] [AddCommMonoid β] {view : Node α → β}

/-- What a view sees of two nodes adds up to the same before and after they are pushed apart. -/
def Balanced (view : Node α → β) : Prop :=
  ∀ threshold a b pushed, push? threshold a b = some pushed →
  view pushed.1 + view pushed.2 = view a + view b

theorem Balanced.against (h : Balanced view) (threshold : α) (a : Node α) (nodes : List (Node α)) :
    view (against threshold a nodes).1 + ((against threshold a nodes).2.1.map view).sum =
      view a + (nodes.map view).sum := by
  induction nodes generalizing a with
  | nil => rfl
  | cons b rest ih =>
    rw [Layout.against]
    cases hp : push? threshold a b with
    | none =>
      simp only [List.map_cons, List.sum_cons]
      rw [add_left_comm, ih, add_left_comm]
    | some pushed =>
      simp only [List.map_cons, List.sum_cons]
      rw [add_left_comm, ih, ← add_assoc, add_comm (view pushed.2), h _ _ _ _ hp, add_assoc]

theorem Balanced.sweep (h : Balanced view) (threshold : α) (nodes : List (Node α)) :
    ((sweep threshold nodes).1.map view).sum = (nodes.map view).sum := by
  fun_induction Layout.sweep threshold nodes with
  | case1 => rfl
  | case2 a rest first others ih =>
    have hfirst := h.against threshold a rest
    rw [List.map_cons, List.map_cons, List.sum_cons, List.sum_cons, ih, hfirst]

theorem balanced_x : Balanced fun node : Node ℝ => node.x := by
  intro threshold a b pushed h
  obtain ⟨-, rfl⟩ := push?_eq_some h
  simp only [Node.moved, Complex.neg_re]
  ring

theorem balanced_y : Balanced fun node : Node ℝ => node.y := by
  intro threshold a b pushed h
  obtain ⟨-, rfl⟩ := push?_eq_some h
  simp only [Node.moved, Complex.neg_im]
  ring

end Sums

section Translation

variable (v : ℂ) (threshold : ℝ)

theorem push?_moved (a b : Node ℝ) :
    push? threshold (a.moved v) (b.moved v) =
      (push? threshold a b).map (Prod.map (Node.moved v) (Node.moved v)) := by
  have hdist : dist (a.moved v).center (b.moved v).center = dist a.center b.center := by
    rw [Node.center_moved, Node.center_moved, dist_add_right]
  by_cases hfar : threshold ≤ dist a.center b.center
  · rw [push?_of_far hfar, push?_of_far (hfar.trans_eq hdist.symm)]
    rfl
  · have hclose := not_le.mp hfar
    rw [push?_of_close hclose, push?_of_close (hdist.trans_lt hclose), thrust_moved]
    simp only [Option.map_some, Prod.map, Node.moved_moved, add_comm v]

theorem against_moved (a : Node ℝ) (nodes : List (Node ℝ)) :
    against threshold (a.moved v) (nodes.map (Node.moved v)) =
      ((against threshold a nodes).1.moved v, (against threshold a nodes).2.1.map (Node.moved v),
        (against threshold a nodes).2.2) := by
  induction nodes generalizing a with
  | nil => rfl
  | cons b rest ih =>
    rw [List.map_cons, against, against, push?_moved]
    cases push? threshold a b with
    | none => simp only [Option.map_none, ih, List.map_cons]
    | some pushed => simp only [Option.map_some, Prod.map, ih, List.map_cons]

theorem sweep_moved (nodes : List (Node ℝ)) :
    sweep threshold (nodes.map (Node.moved v)) =
      ((sweep threshold nodes).1.map (Node.moved v), (sweep threshold nodes).2) := by
  fun_induction sweep threshold nodes with
  | case1 => simp only [List.map_nil, sweep]
  | case2 a rest first others ih =>
    rw [List.map_cons, sweep, against_moved, List.map_cons]
    simp only [ih, first, others]

end Translation

section Clear

variable {threshold : ℝ} {a : Node ℝ} {nodes : List (Node ℝ)}

/-- The centers of two nodes are at least so far from each other. -/
def Clear (threshold : ℝ) (a b : Node ℝ) : Prop := threshold ≤ dist a.center b.center

theorem against_of_clear (h : ∀ b ∈ nodes, Clear threshold a b) :
    against threshold a nodes = (a, nodes, 0) := by
  induction nodes with
  | nil => rfl
  | cons b rest ih =>
    rw [List.forall_mem_cons] at h
    rw [against, push?_of_far h.1, ih h.2]

theorem clear_of_against (h : (against threshold a nodes).2.2 = 0) :
    ∀ b ∈ nodes, Clear threshold a b := by
  induction nodes with
  | nil => simp
  | cons b rest ih =>
    rw [against] at h
    cases hp : push? threshold a b with
    | none =>
      rw [hp] at h
      exact List.forall_mem_cons.mpr ⟨push?_eq_none_iff.mp hp, ih h⟩
    | some pushed =>
      rw [hp] at h
      contradiction

theorem sweep_of_clear (h : nodes.Pairwise (Clear threshold)) :
    sweep threshold nodes = (nodes, 0) := by
  induction nodes with
  | nil => rw [sweep]
  | cons a rest ih =>
    obtain ⟨hfirst, hrest⟩ := List.pairwise_cons.mp h
    rw [sweep, against_of_clear hfirst, ih hrest]
    rfl

theorem clear_of_sweep (h : (sweep threshold nodes).2 = 0) : nodes.Pairwise (Clear threshold) := by
  induction nodes with
  | nil => exact List.Pairwise.nil
  | cons a rest ih =>
    rw [sweep] at h
    obtain ⟨hfirst, hothers⟩ := Nat.add_eq_zero_iff.mp h
    have hclear := clear_of_against hfirst
    -- Nothing was pushed along the first row, so the rest of the sweep runs on the nodes
    -- themselves.
    rw [against_of_clear hclear] at hothers
    exact List.Pairwise.cons hclear (ih hothers)

end Clear

/-- Spreading nodes moves them and does nothing else. Their coordinates add up to the same, and
where the plane begins does not matter. No more pairs are pushed than there are, and none exactly
when all centers are far enough from each other. -/
theorem spread_conserves (gap : ℝ) (nodes : List (Node ℝ)) :
    ((spread gap nodes).1.map fun node => node.x).sum = (nodes.map fun node => node.x).sum ∧
      ((spread gap nodes).1.map fun node => node.y).sum = (nodes.map fun node => node.y).sum ∧
      (spread gap nodes).1.map Node.unplaced = nodes.map Node.unplaced ∧
      (spread gap nodes).2 ≤ nodes.length * (nodes.length - 1) / 2 ∧
      (∀ v, spread gap (nodes.map (Node.moved v)) =
        ((spread gap nodes).1.map (Node.moved v), (spread gap nodes).2)) ∧
      ((spread gap nodes).2 = 0 ↔ nodes.Pairwise (Clear (0.7 * gap))) ∧
      ((spread gap nodes).2 = 0 → (spread gap nodes).1 = nodes) := by
  have hclear (h : nodes.Pairwise (Clear (0.7 * gap))) : spread gap nodes = (nodes, 0) :=
    sweep_of_clear h
  refine ⟨balanced_x.sweep _ _, balanced_y.sweep _ _, map_view_sweep (fun _ _ _ => rfl) _ _, ?_,
    fun v => sweep_moved v _ _, ⟨clear_of_sweep, ?_⟩, ?_⟩
  · rw [← Nat.choose_two_right]
    exact count_sweep_le _ _
  · intro h
    rw [hclear h]
  · intro h
    rw [hclear (clear_of_sweep h)]

end ArchDiagram.Layout
