import Mathlib
import ArchDiagram.Proofs.Decimal.Quotient
import ArchDiagram.Proofs.Layout.Guarded.Rows
import ArchDiagram.Proofs.Layout.Guarded.Spread
import ArchDiagram.Proofs.Layout.Origin

namespace ArchDiagram.Layout.Guarded

open Prompt

section Numbers

theorem isZero_eq_false {x : ℝ} (h : x ≠ 0) : isZero x = false := by
  rwa [← Bool.not_eq_true, isZero_iff]

instance : Divisors ℝ where
  count n hn := isZero_eq_false (Nat.cast_ne_zero.mpr hn.ne')
  two := isZero_eq_false (by norm_num)
  complexity := isZero_eq_false (by norm_num)
  distance x hx := by
    have hpos : (0 : ℝ) ≤ coincidence := by
      rw [coincidence]
      norm_num
    exact isZero_eq_false (hpos.trans_lt hx).ne'

theorem isZero_eq_false_of_not_le {x : Float} (h : ¬x ≤ 0.0) : isZero x = false := by
  rw [isZero, decide_eq_false h]
  rfl

open Float.Model in
/-- What is larger than a positive number is positive, or it would not be comparable with it. -/
theorem not_le_zero_of_lt {m : Nat} {e : Int} {hm : 0 < m} {x y : Float}
    (hx : x.toModel.unpack = .finite .positive m e hm) (h : x < y) : ¬y ≤ 0.0 := by
  rw [Decimal.lt_iff, hx] at h
  rw [Decimal.le_iff, Decimal.unpack_zero]
  generalize y.toModel.unpack = u at h
  cases u with
  | notANumber => exact absurd h Bool.false_ne_true
  | infinity s =>
    cases s with
    | negative => exact absurd h Bool.false_ne_true
    | positive => exact Bool.false_ne_true
  | zero s => exact absurd h Bool.false_ne_true
  | finite s m e hm =>
    cases s with
    | negative => exact absurd h Bool.false_ne_true
    | positive => exact Bool.false_ne_true

theorem unpack_coincidence :
    (coincidence : Float).toModel.unpack = .finite .positive (2 ^ 52) (-104) (by norm_num) :=
  rfl

instance : Divisors Float where
  count _ hn := isZero_eq_false_of_not_le (Decimal.sizable_ofNat hn).not_le_zero
  two := by decide +kernel
  complexity := by decide +kernel
  distance _ hx := isZero_eq_false_of_not_le (not_le_zero_of_lt unpack_coincidence hx)

end Numbers

section Drawing

variable {α : Type} [Scalar α] [Divisors α] {a : Analysis α} {scene : Scene α}

theorem onCircle_eq {count : Nat} (h : 0 < count) (plan : Plan α) (index : Nat) (node : Node α) :
    onCircle plan count index node = .ok (Layout.onCircle plan count index node) := by
  rw [onCircle, ratio_eq (Divisors.count count h), ratio_eq Divisors.two, ratio_eq Divisors.two]
  rfl

theorem circle_eq (plan : Plan α) (scene : Scene α) :
    circle plan scene = .ok (scene.circle plan) := by
  have hnodes : scene.nodes.zipIdx.mapM (fun p => onCircle plan scene.nodes.length p.2 p.1) =
      .ok (scene.nodes.zipIdx.map fun p => Layout.onCircle plan scene.nodes.length p.2 p.1) := by
    refine mapM_eq_ok fun p hp => ?_
    have hpos := List.length_pos_of_mem hp
    rw [List.length_zipIdx] at hpos
    exact onCircle_eq hpos plan p.2 p.1
  rw [circle, hnodes, ok_bind, Scene.circle, List.mapIdx_eq_zipIdx_map]
  rfl

theorem busyness_eq (a : Analysis α) : busyness a = .ok (Layout.busyness a) := by
  rw [busyness, ratio_eq Divisors.complexity]
  rfl

/-- Only a hybrid algorithm starts anew. -/
theorem place_direct (plan : Plan α) (h : plan.algorithm ≠ .hybrid) (budget : Nat) :
    place a scene budget plan = .ok (scene.place (plan.algorithm.shape a) plan) := by
  rw [place]
  cases halgorithm : plan.algorithm with
  | hybrid => exact absurd halgorithm h
  | organic => exact circle_eq plan scene
  | hierarchical | radial | grid | cluster | flow => exact arrange_eq plan scene

/-- A hybrid algorithm starts anew once, as what it hands over to is not hybrid. -/
theorem place_eq (a : Analysis α) (scene : Scene α) (plan : Plan α) :
    place a scene 1 plan = .ok (scene.place (plan.algorithm.shape a) plan) := by
  by_cases h : plan.algorithm = .hybrid
  · have hchosen (busy : Prop) [Decidable busy] :
        place a scene 0
          { plan with algorithm := if busy then Algorithm.organic else .hierarchical } =
          .ok (scene.place (if busy then .circle else .rows) plan) := by
      split_ifs
      · exact place_direct { plan with algorithm := .organic } (by simp) 0
      · exact place_direct { plan with algorithm := .hierarchical } (by simp) 0
    rw [place, h]
    dsimp only
    rw [busyness_eq, ok_bind]
    exact hchosen _
  · exact place_direct plan h 1

omit [Divisors α] in
/-- An empty drawing stays empty. -/
theorem position_nil (plan : Plan α) (a : Analysis α) :
    Scene.position plan a ⟨[], []⟩ = ⟨[], []⟩ := by
  have hplaced : Scene.place (plan.algorithm.shape a) plan ⟨[], []⟩ = ⟨[], []⟩ := by
    cases plan.algorithm.shape a <;> rfl
  have hapart : Scene.apart plan ⟨[], []⟩ = ⟨[], []⟩ := by
    rw [Scene.apart, Layout.spread, sweep]
  rw [Layout.position_eq, hplaced, hapart]
  rfl

/-- The budget of one start is not too large. -/
theorem place_hybrid {plan : Plan α} (h : plan.algorithm = .hybrid) (a : Analysis α)
    (scene : Scene α) :
    place a scene 0 plan = .error .reentry := by
  rw [place, h]
  dsimp only
  rw [busyness_eq, ok_bind]
  rfl

theorem position_eq (plan : Plan α) (a : Analysis α) (scene : Scene α) :
    position 1 plan a scene = .ok (scene.position plan a) := by
  rw [position]
  by_cases hempty : (scene.nodes.isEmpty && scene.containers.isEmpty) = true
  · rw [if_pos hempty]
    rw [Bool.and_eq_true, List.isEmpty_iff, List.isEmpty_iff] at hempty
    obtain ⟨nodes, containers⟩ := scene
    obtain ⟨rfl, rfl⟩ := hempty
    rw [position_nil, pure_eq]
  · rw [if_neg hempty, place_eq, ok_bind, spread_eq, ok_bind, Layout.position_eq]
    rfl

end Drawing

/-- Layout never fails. Every drawing, plan and analysis has a result without a division or a
remainder by zero, a difference of counts below zero or an access outside a list, with one start
anew at most. -/
theorem position_without_fault :
    (∀ (plan : Plan Float) (a : Analysis Float) (scene : Scene Float),
      position 1 plan a scene = .ok (scene.position plan a)) ∧
    ∀ (plan : Plan ℝ) (a : Analysis ℝ) (scene : Scene ℝ),
      position 1 plan a scene = .ok (scene.position plan a) :=
  ⟨position_eq, position_eq⟩

end ArchDiagram.Layout.Guarded
