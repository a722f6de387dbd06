import Mathlib
import ArchDiagram.Proofs.Layout.Spread

namespace ArchDiagram.Layout

section Sweep

variable {threshold : ℝ} {a b a' b' : Node ℝ} {before between later nodes : List (Node ℝ)}

theorem Clear.symm (h : Clear threshold a b) : Clear threshold b a := h.trans_eq (dist_comm _ _)

/-- A node far enough away stays clear of one that moves by half the threshold. -/
theorem clear_moved {v : ℂ} (hv : ‖v‖ ≤ threshold / 2)
    (hfar : 1.5 * threshold ≤ dist b.center a.center) :
    Clear threshold b (a.moved v) := by
  have htriangle := dist_triangle b.center (a.moved v).center a.center
  have hway : dist (a.moved v).center a.center = ‖v‖ := by
    rw [Node.center_moved, dist_eq_norm, add_sub_cancel_left]
  rw [Clear]
  norm_num at hfar
  linarith

theorem against_append_of_clear (h : ∀ c ∈ between, Clear threshold a c) :
    against threshold a (between ++ nodes) =
      ((against threshold a nodes).1, between ++ (against threshold a nodes).2.1,
        (against threshold a nodes).2.2) := by
  induction between with
  | nil => rfl
  | cons c rest ih =>
    rw [List.forall_mem_cons] at h
    rw [List.cons_append, against, push?_of_far h.1, ih h.2]
    rfl

theorem sweep_append_of_clear (hbefore : before.Pairwise (Clear threshold))
    (h : ∀ c ∈ before, ∀ d ∈ nodes, Clear threshold c d) :
    sweep threshold (before ++ nodes) =
      (before ++ (sweep threshold nodes).1, (sweep threshold nodes).2) := by
  induction before with
  | nil => rfl
  | cons c rest ih =>
    obtain ⟨hc, hrest⟩ := List.pairwise_cons.mp hbefore
    rw [List.forall_mem_cons] at h
    have hfirst : ∀ d ∈ rest ++ nodes, Clear threshold c d := List.forall_mem_append.mpr ⟨hc, h.1⟩
    rw [List.cons_append, sweep, against_of_clear hfirst, ih hrest h.2]
    simp

/-- When the pushed pair is clear of all others and so are these of each other, the sweep makes one
push. -/
theorem sweep_pair (hpush : push? threshold a b = some (a', b'))
    (hbefore : ∀ c ∈ before, Clear threshold c a ∧ Clear threshold c b)
    (hbetween : ∀ c ∈ between, Clear threshold a c)
    (hafter : (before ++ a' :: (between ++ b' :: later)).Pairwise (Clear threshold)) :
    sweep threshold (before ++ a :: (between ++ b :: later)) =
      (before ++ a' :: (between ++ b' :: later), 1) := by
  obtain ⟨hfirst, hrest, hcross⟩ := List.pairwise_append.mp hafter
  obtain ⟨ha', hothers⟩ := List.pairwise_cons.mp hrest
  have hlater : ∀ c ∈ later, Clear threshold a' c := fun c hc => ha' c (by simp [hc])
  have hrow : against threshold a (between ++ b :: later) = (a', between ++ b' :: later, 1) := by
    rw [against_append_of_clear hbetween, against, hpush]
    simp only [against_of_clear hlater]
  have hvisits : ∀ c ∈ before, ∀ d ∈ a :: (between ++ b :: later), Clear threshold c d := by
    intro c hc d hd
    have hall := hcross c hc
    simp only [List.mem_cons, List.mem_append] at hd hall
    rcases hd with rfl | hd | rfl | hd
    · exact (hbefore c hc).1
    · exact hall d (by simp [hd])
    · exact (hbefore c hc).2
    · exact hall d (by simp [hd])
  rw [sweep_append_of_clear hfirst hvisits, sweep, hrow, sweep_of_clear hothers]
  rfl

end Sweep

section Places

variable {β : Type} {xs : List β}

/-- Two places of a list, one before the other, cut it into what stands before, between and
after. -/
theorem exists_cut (i j : Fin xs.length) (h : i < j) :
    ∃ before between later,
      (∀ x y, (xs.set i x).set j y = before ++ x :: (between ++ y :: later)) ∧
      (∀ x ∈ before, ∃ k : Fin xs.length, k < i ∧ xs[k] = x) ∧
      ∀ x ∈ between, ∃ k : Fin xs.length, i < k ∧ k < j ∧ xs[k] = x := by
  obtain ⟨i, hi⟩ := i
  obtain ⟨j, hj⟩ := j
  obtain ⟨d, rfl⟩ := Nat.exists_eq_add_of_lt (show i < j from h)
  refine ⟨xs.take i, (xs.drop (i + 1)).take d, (xs.drop (i + 1)).drop (d + 1), ?_, ?_, ?_⟩
  · intro x y
    have hlength : (xs.take i).length = i := List.length_take_of_le hi.le
    have hd : d < (xs.drop (i + 1)).length := by
      rw [List.length_drop]
      omega
    have hbeyond : (xs.take i).length ≤ i + d + 1 := by omega
    have hplace : i + d + 1 - i = d + 1 := by omega
    have hfirst : xs.set i x = xs.take i ++ x :: xs.drop (i + 1) := by
      rw [List.set_eq_take_append_cons_drop, if_pos hi]
    rw [hfirst, List.set_append_right _ _ hbeyond, hlength, hplace, List.set_cons_succ,
      List.set_eq_take_append_cons_drop, if_pos hd]
  · intro x hx
    obtain ⟨k, hk, rfl⟩ := List.mem_take_iff_getElem.mp hx
    exact ⟨⟨k, by omega⟩, show k < i by omega, rfl⟩
  · intro x hx
    obtain ⟨k, hk, rfl⟩ := List.mem_take_iff_getElem.mp hx
    rw [List.length_drop] at hk
    refine ⟨⟨i + 1 + k, by omega⟩, show i <
      i + 1 + k by omega, show i + 1 + k < i + d + 1 by omega, ?_⟩
    exact List.getElem_drop.symm

end Places

/-- Two of the nodes pushed apart, the others where they were. -/
noncomputable def pushed (threshold : ℝ) (nodes : List (Node ℝ)) (i j : Fin nodes.length) :
    List (Node ℝ) :=
  (nodes.set i (nodes[i].moved (-thrust threshold nodes[i] nodes[j]))).set j
    (nodes[j].moved (thrust threshold nodes[i] nodes[j]))

/-- Exactly one pair of nodes is closer than a threshold, its centers are not almost the same point,
and every other node keeps half as much again from both. -/
structure Isolated (threshold : ℝ) (nodes : List (Node ℝ)) (i j : Fin nodes.length) : Prop where
  order : i < j
  close : dist nodes[i].center nodes[j].center < threshold
  only : ∀ k l, k < l → dist nodes[k].center nodes[l].center < threshold → k = i ∧ l = j
  definite : dist nodes[i].center nodes[j].center = 0 ∨
    coincidence < dist nodes[i].center nodes[j].center
  away : ∀ k, k ≠ i → k ≠ j →
    1.5 * threshold ≤ dist nodes[k].center nodes[i].center ∧
      1.5 * threshold ≤ dist nodes[k].center nodes[j].center

namespace Isolated

variable {threshold : ℝ} {nodes : List (Node ℝ)} {i j : Fin nodes.length}
  (h : Isolated threshold nodes i j)
include h

theorem clear (k l : Fin nodes.length) (hkl : k < l) (hother : ¬(k = i ∧ l = j)) :
    Clear threshold nodes[k] nodes[l] := by
  by_contra hclose
  exact hother (h.only k l hkl (not_le.mp hclose))

theorem clear_pushed (k : Fin nodes.length) (hi : k ≠ i) (hj : k ≠ j) :
    Clear threshold nodes[k] (nodes[i].moved (-thrust threshold nodes[i] nodes[j])) ∧
      Clear threshold nodes[k] (nodes[j].moved (thrust threshold nodes[i] nodes[j])) := by
  obtain ⟨hfirst, hsecond⟩ := h.away k hi hj
  have hway := norm_thrust_le h.close.le
  exact ⟨clear_moved ((norm_neg _).trans_le hway) hfirst, clear_moved hway hsecond⟩

theorem pairwise_pushed : (pushed threshold nodes i j).Pairwise (Clear threshold) := by
  have hij : (i : ℕ) < j := h.order
  rw [pushed, List.pairwise_iff_getElem]
  intro k l hk hl hkl
  rw [List.length_set, List.length_set] at hk hl
  have hother (m : ℕ) (hm : m < nodes.length) (hi : ¬(i : ℕ) = m) (hj : ¬(j : ℕ) = m) :=
    h.clear_pushed ⟨m, hm⟩ (fun he => hi (by rw [← he])) (fun he => hj (by rw [← he]))
  simp only [List.getElem_set]
  split_ifs with hjk hjl hil hik hjl hil hjl hil
  · omega
  · omega
  · exact (hother l hl hil hjl).2.symm
  · exact (dist_pushed h.definite h.close.le).ge
  · omega
  · exact (hother l hl hil hjl).1.symm
  · exact (hother k hk hik hjk).2
  · exact (hother k hk hik hjk).1
  · exact h.clear ⟨k, hk⟩ ⟨l, hl⟩ hkl fun he => hik (by rw [← he.1])

theorem sweep_eq : sweep threshold nodes = (pushed threshold nodes i j, 1) := by
  have hpairwise := h.pairwise_pushed
  obtain ⟨before, between, later, hset, hbefore, hbetween⟩ := exists_cut i j h.order
  have hnodes : nodes = before ++ nodes[i] :: (between ++ nodes[j] :: later) := by
    rw [← hset, Fin.getElem_fin, Fin.getElem_fin, List.set_getElem_self, List.set_getElem_self]
  rw [pushed, hset] at hpairwise ⊢
  calc sweep threshold nodes
      = sweep threshold (before ++ nodes[i] :: (between ++ nodes[j] :: later)) :=
        congrArg (sweep threshold) hnodes
    _ = _ := by
      refine sweep_pair (push?_of_close h.close) ?_ ?_ hpairwise
      · intro c hc
        obtain ⟨k, hk, rfl⟩ := hbefore c hc
        exact ⟨h.clear k i hk fun he => hk.ne he.1,
          h.clear k j (hk.trans h.order) fun he => hk.ne he.1⟩
      · intro c hc
        obtain ⟨k, hik, hkj, rfl⟩ := hbetween c hc
        exact h.clear i k hik fun he => hkj.ne he.2

end Isolated

/-- One sweep settles a pair that is close while everything else is far off. The pair ends up at the
exact distance around the same midpoint, no other node moves, and a second sweep finds nothing to
do. -/
theorem spread_isolated {gap : ℝ} {nodes : List (Node ℝ)} {i j : Fin nodes.length}
    (h : Isolated (0.7 * gap) nodes i j) :
    ∃ a b : Node ℝ,
      spread gap nodes = ((nodes.set i a).set j b, 1) ∧
      a.unplaced = nodes[i].unplaced ∧ b.unplaced = nodes[j].unplaced ∧
      dist a.center b.center = 0.7 * gap ∧
      midpoint ℝ a.center b.center = midpoint ℝ nodes[i].center nodes[j].center ∧
      (spread gap nodes).1.Pairwise (Clear (0.7 * gap)) ∧
      spread gap (spread gap nodes).1 = ((spread gap nodes).1, 0) := by
  have hswept : spread gap nodes = _ := h.sweep_eq
  have hpairwise := h.pairwise_pushed
  refine ⟨_, _, hswept, rfl, rfl, dist_pushed h.definite h.close.le, midpoint_pushed _ _ _, ?_, ?_⟩
  · rw [hswept]
    exact hpairwise
  · rw [hswept]
    exact sweep_of_clear hpairwise

noncomputable def inRow (x : ℝ) : Node ℝ := { Node.fresh "a" "A" .server with x }

theorem dist_inRow (x y : ℝ) : dist (inRow x).center (inRow y).center = |x - y| := by
  have hy : (inRow x).center.im = (inRow y).center.im := rfl
  have hx : (inRow x).center.re - (inRow y).center.re = x - y := add_sub_add_right_eq_sub _ _ _
  rw [Complex.dist_of_im_eq hy, Real.dist_eq, hx]

/-- The first and the last node are pushed apart, past the one between them in the list. -/
theorem spread_row :
    ∃ a b : Node ℝ, spread 150 [inRow 0, inRow 1000, inRow 50] = ([a, inRow 1000, b], 1) ∧
      dist a.center b.center = 0.7 * 150 ∧
      spread 150 [a, inRow 1000, b] = ([a, inRow 1000, b], 0) := by
  have hisolated :
      Isolated (0.7 * 150) [inRow 0, inRow 1000, inRow 50] ⟨0, by simp⟩ ⟨2, by simp⟩ := by
    refine ⟨by simp, by norm_num [dist_inRow], ?_, by norm_num [dist_inRow, coincidence], ?_⟩
    · intro k l
      fin_cases k <;> fin_cases l <;> norm_num [dist_inRow]
    · intro k
      fin_cases k <;> norm_num [dist_inRow]
  obtain ⟨a, b, hspread, -, -, hdist, -, -, hagain⟩ := spread_isolated hisolated
  rw [hspread] at hagain
  exact ⟨a, b, hspread, hdist, hagain⟩

end ArchDiagram.Layout
