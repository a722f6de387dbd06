import Mathlib
import ArchDiagram.Proofs.Layout.Framed

namespace ArchDiagram.Layout

namespace Scene

def lefts (scene : Scene ℝ) : List ℝ := scene.nodes.map (·.x) ++ scene.containers.map (·.x)

def tops (scene : Scene ℝ) : List ℝ := scene.nodes.map (·.y) ++ scene.containers.map (·.y)

/-- The upper left corners of all nodes and containers. -/
def corners (scene : Scene ℝ) : List (ℝ × ℝ) :=
  scene.nodes.map (fun n => (n.x, n.y)) ++ scene.containers.map fun c => (c.x, c.y)

/-- Where each box lies as seen from each box. -/
def offsets (scene : Scene ℝ) : List (List (ℝ × ℝ)) :=
  scene.corners.map fun p => scene.corners.map fun q => q - p

/-- For each container, which nodes it encloses. -/
noncomputable def enclosures (scene : Scene ℝ) : List (List Bool) :=
  scene.containers.map fun c => scene.nodes.map c.encloses

end Scene

/-- The coordinates along an axis, before and after they were shifted so that none is negative. -/
structure Shifted (before after : List ℝ) (d : ℝ) : Prop where
  least : ∀ least, IsLeast {x | x ∈ before} least → d = max 0 (-least)
  nothing : before = [] → d = 0
  moved : after = before.map (· + d)
  nonneg : ∀ x ∈ after, 0 ≤ x
  still : (∀ x ∈ before, 0 ≤ x) → d = 0 ∧ after = before
  touching : (∃ x ∈ before, x < 0) → IsLeast {x | x ∈ after} 0

section Axis

variable {coordinates : List ℝ} {start : ℝ}

theorem isLeast_foldl_min :
    IsLeast (insert start {x | x ∈ coordinates}) (coordinates.foldl Scalar.min start) := by
  induction coordinates generalizing start with
  | nil => simp
  | cons x coordinates ih =>
    have hrest := @ih (Min.min start x)
    have hset : insert start {y | y ∈ x :: coordinates} = {start, x} ∪ {y | y ∈ coordinates} := by
      ext y
      simp [or_assoc]
    have hpair : IsLeast {start, x} (Min.min start x) := isLeast_pair
    rw [List.foldl_cons, Scalar.min_eq, hset]
    refine ⟨?_, ?_⟩
    · rcases hrest.1 with h | h
      · rw [h]
        exact Or.inl hpair.1
      · exact Or.inr h
    · rintro y (hy | hy)
      · exact (hrest.2 (Set.mem_insert _ _)).trans (hpair.2 hy)
      · exact hrest.2 (Set.mem_insert_of_mem _ hy)

/-- An offset is as large as the largest distance by which a coordinate is below zero. -/
theorem isLeast_neg_offsetOf (coordinates : List ℝ) :
    IsLeast (insert 0 {x | x ∈ coordinates}) (-offsetOf coordinates) := by
  have hzero : (0.0 : ℝ) = 0 := by norm_num
  rw [offsetOf, neg_neg, hzero]
  exact isLeast_foldl_min

theorem offsetOf_eq_zero (h : ∀ x ∈ coordinates, 0 ≤ x) : offsetOf coordinates = 0 := by
  have hzero : IsLeast (insert 0 {x | x ∈ coordinates}) (0 : ℝ) := by
    refine ⟨Set.mem_insert _ _, ?_⟩
    rintro x (rfl | hx)
    · exact le_rfl
    · exact h x hx
  have heq := (isLeast_neg_offsetOf coordinates).unique hzero
  linarith

theorem shifted_offsetOf (coordinates : List ℝ) :
    Shifted coordinates (coordinates.map (· + offsetOf coordinates)) (offsetOf coordinates) := by
  have hleast := isLeast_neg_offsetOf coordinates
  have hnonneg : ∀ x ∈ coordinates.map (· + offsetOf coordinates), 0 ≤ x := by
    rw [List.forall_mem_map]
    exact fun x hx => offset_nonneg hx
  refine ⟨?_, ?_, rfl, hnonneg, ?_, ?_⟩
  · intro least h
    have hmin := hleast.unique (h.insert 0)
    rw [← neg_eq_iff_eq_neg.mpr hmin.symm, ← max_neg_neg, neg_zero]
  · rintro rfl
    exact offsetOf_eq_zero (by simp)
  · intro h
    have hzero := offsetOf_eq_zero h
    simp [hzero]
  · rintro ⟨x, hx, hneg⟩
    have hbelow : -offsetOf coordinates < 0 := (hleast.2 (Set.mem_insert_of_mem _ hx)).trans_lt hneg
    have hmem : -offsetOf coordinates ∈ coordinates := hleast.1.resolve_left hbelow.ne
    refine ⟨List.mem_map.mpr ⟨_, hmem, neg_add_cancel _⟩, hnonneg⟩

end Axis

section Moved

variable (scene : Scene ℝ) (dx dy : ℝ)

theorem lefts_moved : (scene.moved dx dy).lefts = scene.lefts.map (· + dx) := by
  simp only [Scene.lefts, Scene.moved, List.map_append, List.map_map]
  rfl

theorem tops_moved : (scene.moved dx dy).tops = scene.tops.map (· + dy) := by
  simp only [Scene.tops, Scene.moved, List.map_append, List.map_map]
  rfl

theorem corners_moved : (scene.moved dx dy).corners = scene.corners.map (· + (dx, dy)) := by
  simp only [Scene.corners, Scene.moved, List.map_append, List.map_map]
  rfl

theorem offsets_moved : (scene.moved dx dy).offsets = scene.offsets := by
  simp only [Scene.offsets, corners_moved, List.map_map]
  apply List.map_congr_left
  intro p _
  apply List.map_congr_left
  intro q _
  exact add_sub_add_right_eq_sub q p (dx, dy)

theorem encloses_moved (c : Container ℝ) (n : Node ℝ) :
    Container.encloses { c with x := c.x + dx, y := c.y + dy }
      { n with x := n.x + dx, y := n.y + dy } =
      c.encloses n := by
  have hside (a b d e : ℝ) : (a + d - e ≤ b + d ↔ a - e ≤ b) := by
    constructor <;> intro h <;> linarith
  have hfar (a w b v d e : ℝ) : (a + d + w ≤ b + d + v + e ↔ a + w ≤ b + v + e) := by
    constructor <;> intro h <;> linarith
  rw [Bool.eq_iff_iff]
  simp only [Container.encloses, Bool.and_eq_true, decide_eq_true_eq]
  simp only [Node.right, Node.bottom, hside, hfar]

theorem enclosures_moved : (scene.moved dx dy).enclosures = scene.enclosures := by
  simp only [Scene.enclosures, Scene.moved, List.map_map]
  apply List.map_congr_left
  intro c _
  apply List.map_congr_left
  intro n _
  exact encloses_moved dx dy c n

theorem moved_zero : scene.moved 0 0 = scene := by
  simp [Scene.moved]

end Moved

theorem isZero_iff (x : ℝ) : isZero x = true ↔ x = 0 := by
  have hzero : (0.0 : ℝ) = 0 := by norm_num
  rw [isZero, Bool.and_eq_true, decide_eq_true_eq, decide_eq_true_eq, hzero]
  exact antisymm_iff

/-- To leave a drawing that needs no move is to move it by nothing. -/
theorem normalize_eq (scene : Scene ℝ) :
    scene.normalize = ((scene.offsetX, scene.offsetY), scene.toOrigin) := by
  simp only [Scene.normalize, Scene.toOrigin]
  split_ifs with h
  · rw [Bool.and_eq_true, isZero_iff, isZero_iff] at h
    rw [h.1, h.2, moved_zero]
  · rfl

/-- A drawing is normalized by one vector that shifts each axis on its own. Boxes keep their sizes
and lie to each other as before, and normalizing again changes nothing. -/
theorem normalize_shifts (scene : Scene ℝ) :
    ∃ dx dy after, scene.normalize = ((dx, dy), after) ∧
      after.nodes = scene.nodes.map (fun n => { n with x := n.x + dx, y := n.y + dy }) ∧
      after.containers = scene.containers.map (fun c => { c with x := c.x + dx, y := c.y + dy }) ∧
      Shifted scene.lefts after.lefts dx ∧ Shifted scene.tops after.tops dy ∧
      after.offsets = scene.offsets ∧ after.enclosures = scene.enclosures ∧
      after.normalize = ((0, 0), after) := by
  have hx : Shifted scene.lefts scene.toOrigin.lefts scene.offsetX := by
    rw [Scene.toOrigin, lefts_moved]
    exact shifted_offsetOf scene.lefts
  have hy : Shifted scene.tops scene.toOrigin.tops scene.offsetY := by
    rw [Scene.toOrigin, tops_moved]
    exact shifted_offsetOf scene.tops
  have hagain : scene.toOrigin.normalize = ((0, 0), scene.toOrigin) := by
    have hdx : scene.toOrigin.offsetX = 0 := offsetOf_eq_zero hx.nonneg
    have hdy : scene.toOrigin.offsetY = 0 := offsetOf_eq_zero hy.nonneg
    have hstays : scene.toOrigin.toOrigin = scene.toOrigin := by
      change scene.toOrigin.moved scene.toOrigin.offsetX scene.toOrigin.offsetY = _
      rw [hdx, hdy, moved_zero]
    rw [normalize_eq, hdx, hdy, hstays]
  exact ⟨scene.offsetX, scene.offsetY, scene.toOrigin, normalize_eq scene, rfl, rfl, hx, hy,
    offsets_moved scene _ _, enclosures_moved scene _ _, hagain⟩

end ArchDiagram.Layout
