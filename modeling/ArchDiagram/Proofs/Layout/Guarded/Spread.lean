import Mathlib
import ArchDiagram.Proofs.Layout.Guarded.Steps

namespace ArchDiagram.Layout.Guarded

variable {α : Type} [Scalar α] [Divisors α] {threshold : α}

theorem center_eq (node : Node α) : center node = .ok (node.centerX, node.centerY) := by
  rw [center, ratio_eq Divisors.two, ratio_eq Divisors.two]
  rfl

theorem direction_eq (dx dy distance : α) : direction dx dy distance =
    .ok (if decide (coincidence < distance) then dx / distance else 1.0,
      if decide (coincidence < distance) then dy / distance else 0.0) := by
  rw [direction]
  by_cases hapart : coincidence < distance
  · have hdistance : isZero distance = false := Divisors.distance distance hapart
    rw [ratio_eq hdistance, ratio_eq hdistance]
    simp only [hapart, decide_true, if_true]
    rfl
  · simp only [hapart, decide_false, if_false]
    rfl

theorem push?_eq (threshold : α) (a b : Node α) :
    push? threshold a b = .ok (Layout.push? threshold a b) := by
  rw [push?, center_eq, center_eq, ok_bind, ok_bind, Layout.push?]
  dsimp only
  by_cases hfar : threshold ≤ Scalar.hypot (b.centerX - a.centerX) (b.centerY - a.centerY)
  · rw [if_pos hfar, if_pos hfar]
    rfl
  · rw [if_neg hfar, if_neg hfar, direction_eq, ok_bind, ratio_eq Divisors.two]
    rfl

/-- One pair, the second node of which stands some way after the first. -/
theorem pushAt_eq (threshold : α) (before middle rest : List (Node α)) (a b : Node α)
    (count : Nat) :
    pushAt threshold before.length (before ++ a :: (middle ++ b :: rest), count)
        (before.length + 1 + middle.length) =
      .ok (match Layout.push? threshold a b with
        | none => (before ++ a :: (middle ++ b :: rest), count)
        | some (a, b) => (before ++ a :: (middle ++ b :: rest), count + 1)) := by
  have hfirst (xs : List (Node α)) (x : Node α) : (before ++ x :: xs)[before.length]? = some x := by
    simp
  have hsecond (x y : Node α) :
      (before ++ x :: (middle ++ y :: rest))[before.length + 1 + middle.length]? = some y := by
    rw [List.getElem?_append_right (by omega)]
    have hskip : before.length + 1 + middle.length - before.length = middle.length + 1 := by omega
    rw [hskip]
    simp
  rw [pushAt, read_eq (hfirst _ a), ok_bind, read_eq (hsecond a b), ok_bind, push?_eq, ok_bind]
  cases Layout.push? threshold a b with
  | none => rfl
  | some pushed =>
    have hwrite (x : Node α) : (before ++ a :: (middle ++ b :: rest)).set before.length x =
        before ++ x :: (middle ++ b :: rest) := by simp
    have hset : (before ++ pushed.1 :: (middle ++ b :: rest)).set
        (before.length + 1 + middle.length) pushed.2 =
        before ++ pushed.1 :: (middle ++ pushed.2 :: rest) := by
      rw [List.set_append_right _ _ (by omega)]
      have hskip : before.length + 1 + middle.length - before.length = middle.length + 1 := by omega
      rw [hskip]
      simp
    obtain ⟨hlt, -⟩ := List.getElem?_eq_some_iff.mp (hfirst (middle ++ b :: rest) a)
    obtain ⟨hlt', -⟩ := List.getElem?_eq_some_iff.mp (hsecond pushed.1 b)
    dsimp only
    rw [write_eq hlt, ok_bind, hwrite, write_eq hlt', ok_bind, hset, pure_eq]

/-- The positions after a node are visited in the order of the list. -/
theorem foldlM_pushAt (threshold : α) (before middle rest : List (Node α)) (a : Node α)
    (count : Nat) :
    (List.range' (before.length + 1 + middle.length) rest.length).foldlM
      (pushAt threshold before.length) (before ++ a :: (middle ++ rest), count) =
      .ok (before ++ (against threshold a rest).1 :: (middle ++ (against threshold a rest).2.1),
        count + (against threshold a rest).2.2) := by
  induction rest generalizing a middle count with
  | nil => rfl
  | cons b rest ih =>
    have hnext (y : Node α) :
        before.length + 1 + middle.length + 1 = before.length + 1 + (middle ++ [y]).length := by
      simp [Nat.add_assoc]
    have hmiddle (y : Node α) (ys : List (Node α)) : middle ++ y :: ys = (middle ++ [y]) ++ ys := by
      simp
    rw [List.length_cons, List.range'_succ, List.foldlM_cons, pushAt_eq, ok_bind, against]
    cases Layout.push? threshold a b with
    | none =>
      dsimp only
      rw [hnext b, hmiddle b rest, ih, ← hmiddle]
    | some pushed =>
      dsimp only
      rw [hnext pushed.2, hmiddle pushed.2 rest, ih, ← hmiddle]
      congr 2
      omega

/-- Every node is the first of its pairs once, and by then those before it have been. -/
theorem foldlM_sweep (threshold : α) (before nodes : List (Node α)) (count total : Nat)
    (h : before.length + nodes.length = total) :
    (List.range' before.length nodes.length).foldlM (fun state i =>
        (List.range' (i + 1) (total - (i + 1))).foldlM (pushAt threshold i) state)
          (before ++ nodes, count) =
      .ok (before ++ (sweep threshold nodes).1, count + (sweep threshold nodes).2) := by
  fun_induction sweep threshold nodes generalizing before count with
  | case1 => rfl
  | case2 a rest first others ih =>
    have hrest : total - (before.length + 1) = rest.length := by
      rw [List.length_cons] at h
      omega
    have hinner := foldlM_pushAt threshold before [] rest a count
    rw [List.length_nil, Nat.add_zero, List.nil_append, List.nil_append] at hinner
    have hlength : first.2.1.length = rest.length := length_against threshold a rest
    have hsplit (x : Node α) (xs : List (Node α)) : before ++ x :: xs = (before ++ [x]) ++ xs := by
      simp
    have hnext : before.length + 1 = (before ++ [first.1]).length := by simp
    rw [List.length_cons, List.range'_succ, List.foldlM_cons, hrest, hinner, ok_bind, hsplit, hnext,
      ← hlength]
    rw [ih (before ++ [first.1]) _ (by rw [← hnext, hlength, ← h, List.length_cons]; omega),
      ← hsplit, Nat.add_assoc]

theorem spread_eq (nodeSpacing : α) (nodes : List (Node α)) :
    spread nodeSpacing nodes = .ok (Layout.spread nodeSpacing nodes) := by
  have h := foldlM_sweep (collisionFactor * nodeSpacing) [] nodes 0 nodes.length (by simp)
  rw [List.length_nil, List.nil_append, List.nil_append, Nat.zero_add] at h
  rw [spread, List.range_eq_range', h]
  rfl

end ArchDiagram.Layout.Guarded
