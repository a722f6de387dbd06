import Mathlib
import ArchDiagram.Proofs.Layout.Extent.Frame

namespace ArchDiagram.Layout

section Positions

variable {w r : ℝ} {plan : Plan ℝ} {scene : Scene ℝ}

theorem Boxed.mono {c : Container ℝ} {s : ℝ} (h : Boxed r c) (hrs : r ≤ s) : Boxed s c :=
  ⟨h.x.trans hrs, h.y.trans hrs, h.width.trans hrs, h.height.trans hrs⟩

theorem Celled.boxed {c : Container ℝ} (h : Celled c) : Boxed 61000 c := by
  obtain ⟨hx, hx'⟩ := h.x
  obtain ⟨hy, hy'⟩ := h.y
  obtain ⟨hw, hw'⟩ := h.width
  obtain ⟨hh, hh'⟩ := h.height
  constructor <;> rw [abs_le] <;> constructor <;> linarith

def dimensions (node : Node ℝ) : ℝ × ℝ := (node.width, node.height)

theorem sized_of_map {before after : List (Node ℝ)}
    (he : after.map dimensions = before.map dimensions) (h : ∀ node ∈ before, Sized w node) :
    ∀ node ∈ after, Sized w node := by
  intro node hm
  have hmem := List.mem_map_of_mem (f := dimensions) hm
  rw [he] at hmem
  obtain ⟨old, ho, hsize⟩ := List.mem_map.mp hmem
  obtain ⟨hwidth, hheight⟩ := Prod.mk.inj hsize
  obtain ⟨hw, hh⟩ := h old ho
  exact ⟨hwidth ▸ hw, hheight ▸ hh⟩

theorem within_place (hp : Modest plan) (h : Small w scene) (hw : 0 ≤ w)
    (hc : ∀ c ∈ scene.containers, Boxed 61000 c) (shape : Shape) :
    (∀ node ∈ (scene.place shape plan).nodes, Near (100000 + 20 * w) node) ∧
      ∀ c ∈ (scene.place shape plan).containers, Boxed 61000 c := by
  cases shape with
  | rows => exact ⟨near_arrange hp h hw, fun c hm => (celled_arrange hp h c hm).boxed⟩
  | circle => exact ⟨near_circle hp h, hc⟩

theorem length_place (shape : Shape) :
    (scene.place shape plan).nodes.length = scene.nodes.length := by
  have hv : Placeless fun _ : Node ℝ => () := fun _ _ _ => rfl
  simpa using congrArg List.length (map_view_place hv (fun _ _ _ _ _ _ _ => rfl) shape plan)

theorem within_position (hp : Modest plan) (h : Small w scene) (hw : 0 ≤ w)
    (hc : ∀ c ∈ scene.containers, Boxed 61000 c) (a : Prompt.Analysis ℝ) :
    (scene.position plan a).Within (500000 + 100 * w) := by
  obtain ⟨hgap, hgap'⟩ := hp.nodeSpacing
  obtain ⟨hnodes, hcontainers⟩ := within_place hp h hw hc (plan.algorithm.shape a)
  have hthreshold : 0 ≤ collisionFactor * plan.nodeSpacing ∧
      collisionFactor * plan.nodeSpacing ≤ 700 := by
    have hfactor : (collisionFactor : ℝ) = 7 / 10 := by norm_num [collisionFactor]
    rw [hfactor]
    constructor <;> linarith
  have hcount : (scene.nodes.length : ℝ) ≤ 20 := by exact_mod_cast h.nodes
  have hspread := near_sweep hthreshold.1 _ _ hnodes
  rw [length_place] at hspread
  have hsizeless : Placeless dimensions := fun _ _ _ => rfl
  have hsized :
      ∀ node ∈ (spread plan.nodeSpacing (scene.place (plan.algorithm.shape a) plan).nodes).1,
      Sized w node := by
    refine sized_of_map ?_ h.sized
    rw [spread, map_view_sweep hsizeless, map_view_place hsizeless fun _ _ _ _ _ _ _ => rfl]
  have hnear :
      ∀ node ∈ (spread plan.nodeSpacing (scene.place (plan.algorithm.shape a) plan).nodes).1,
      Near (107000 + 20 * w) node := by
    intro node hm
    refine (hspread node hm).mono ?_
    nlinarith [hthreshold.2, h.nodes]
  have hfit : (Scene.fit { scene.place (plan.algorithm.shape a) plan with
      nodes := (spread plan.nodeSpacing
        (scene.place (plan.algorithm.shape a) plan).nodes).1 }).Within
        (2 * (107000 + 20 * w + w) + 80) := by
    constructor
    · exact fun node hm => (hnear node hm).mono (by linarith)
    · intro c hm
      obtain ⟨before, hb, rfl⟩ := List.mem_map.mp hm
      exact boxed_fitContainer (fun node hn => ⟨hnear node hn, hsized node hn⟩)
        ((hcontainers before hb).mono (by linarith)) (by linarith)
  obtain ⟨hnodes', hcontainers'⟩ := within_toOrigin hfit (by linarith)
  exact ⟨fun node hm => (hnodes' node hm).mono (by linarith),
    fun c hm => (hcontainers' c hm).mono (by linarith)⟩

end Positions

section Plans

open Prompt

theorem scaleMultiplier_bounds (scale : Scale) :
    0 ≤ (scaleMultiplier scale : ℝ) ∧ (scaleMultiplier scale : ℝ) ≤ 2 := by
  cases scale <;> norm_num [scaleMultiplier]

theorem complexityAdjustment_bounds (complexity : Complexity) :
    0 ≤ (complexityAdjustment complexity : ℝ) ∧ (complexityAdjustment complexity : ℝ) ≤ 1.6 := by
  cases complexity <;> norm_num [complexityAdjustment]

theorem demand_bounds (a : Analysis ℝ) :
    (0 ≤ (demand a).canvas ∧ (demand a).canvas ≤ 1.5) ∧ 0 ≤ (demand a).level ∧
    (demand a).level ≤ 1.2 := by
  rw [demand]
  cases a.pattern with
  | layered => dsimp only; split_ifs <;> norm_num
  | _ => norm_num

/-- No plan asks for more room than a few standard gaps. -/
theorem modest_choosePlan (a : Analysis ℝ) : Modest (choosePlan a) := by
  obtain ⟨hs, hs'⟩ := scaleMultiplier_bounds a.scale
  obtain ⟨hc, hc'⟩ := complexityAdjustment_bounds a.complexity
  obtain ⟨⟨hcanvas, hcanvas'⟩, hlevel, hlevel'⟩ := demand_bounds a
  have hfactor : 0 ≤ (scaleMultiplier a.scale * complexityAdjustment a.complexity : ℝ) ∧
      (scaleMultiplier a.scale * complexityAdjustment a.complexity : ℝ) ≤ 3.2 := by
    refine ⟨mul_nonneg hs hc, (mul_le_mul hs' hc' hc (by norm_num)).trans (by norm_num)⟩
  have hgap (base : ℝ) (hbase : 0 ≤ base ∧ base ≤ 150) :
      0 ≤ base * (scaleMultiplier a.scale * complexityAdjustment a.complexity) ∧
        base * (scaleMultiplier a.scale * complexityAdjustment a.complexity) ≤ 480 := by
    refine ⟨mul_nonneg hbase.1 hfactor.1,
      (mul_le_mul hbase.2 hfactor.2 hfactor.1 (by norm_num)).trans ?_⟩
    norm_num
  obtain ⟨hlevels, hlevels'⟩ := hgap Plan.baseLevelSpacing (by norm_num [Plan.baseLevelSpacing])
  have hcenter {side : ℝ} (hside : 0 ≤ side ∧ side ≤ 1600) :
      0 ≤ side * (demand a).canvas / 2.0 ∧ side * (demand a).canvas / 2.0 ≤ 10000 := by
    have hwide := mul_le_mul hside.2 hcanvas' hcanvas (by norm_num : (0 : ℝ) ≤ 1600)
    have hpos := mul_nonneg hside.1 hcanvas
    constructor <;> linarith
  refine ⟨?_, ?_, ?_, hcenter (by norm_num [Canvas.standard]),
    hcenter (by norm_num [Canvas.standard])⟩
  · obtain ⟨hlow, hhigh⟩ := hgap Plan.baseNodeSpacing (by norm_num [Plan.baseNodeSpacing])
    exact ⟨hlow, hhigh.trans (by norm_num)⟩
  · have hmost := mul_le_mul hlevels' hlevel' hlevel (by norm_num)
    exact ⟨mul_nonneg hlevels hlevel, hmost.trans (by norm_num)⟩
  · obtain ⟨hlow, hhigh⟩ := hgap Plan.baseContainerSpacing (by norm_num [Plan.baseContainerSpacing])
    exact ⟨hlow, hhigh.trans (by norm_num)⟩

end Plans

end ArchDiagram.Layout
