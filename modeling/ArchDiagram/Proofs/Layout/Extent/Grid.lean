import Mathlib
import ArchDiagram.Layout.Position
import ArchDiagram.Proofs.Exact
import ArchDiagram.Proofs.Layout.Unmoved

namespace ArchDiagram.Layout

/-- The corner of a node lies within a distance of both axes. -/
def Near (r : ℝ) (node : Node ℝ) : Prop := |node.x| ≤ r ∧ |node.y| ≤ r

theorem Near.mono {r s : ℝ} {node : Node ℝ} (h : Near r node) (hrs : r ≤ s) : Near s node :=
  ⟨h.1.trans hrs, h.2.trans hrs⟩

structure Sized (w : ℝ) (node : Node ℝ) : Prop where
  width : 0 ≤ node.width ∧ node.width ≤ w
  height : 0 ≤ node.height ∧ node.height ≤ w

/-- Gaps and centers are no larger than those that are ever planned. -/
structure Modest (plan : Plan ℝ) : Prop where
  nodeSpacing : 0 ≤ plan.nodeSpacing ∧ plan.nodeSpacing ≤ 1000
  levelSpacing : 0 ≤ plan.levelSpacing ∧ plan.levelSpacing ≤ 1000
  containerSpacing : 0 ≤ plan.containerSpacing ∧ plan.containerSpacing ≤ 1000
  centerX : 0 ≤ plan.centerX ∧ plan.centerX ≤ 10000
  centerY : 0 ≤ plan.centerY ∧ plan.centerY ≤ 10000

/-- The most nodes, containers and listed ids of a drawing that is called small. -/
def few : ℕ := 20

section Numbers

theorem rowsFor_le (count columns : ℕ) : rowsFor count columns ≤ count := by
  rw [rowsFor]
  cases columns with
  | zero => simp
  | succ k =>
    refine Nat.le_of_lt_succ ((Nat.div_lt_iff_lt_mul k.succ_pos).mpr ?_)
    calc count + (k + 1) - 1 = count + k := by omega
      _ < count * k + (count + k + 1) := by omega
      _ = (count + 1) * (k + 1) := by ring

/-- Up to twenty steps of one size. -/
theorem steps_bounds {k : ℕ} {p q : ℝ} (hk : k ≤ few) (hp : 0 ≤ p) (hq : p ≤ q) :
    0 ≤ (k : ℝ) * p ∧ (k : ℝ) * p ≤ 20 * q := by
  have hcast : (k : ℝ) ≤ 20 := by exact_mod_cast hk
  have hpos : (0 : ℝ) ≤ k := k.cast_nonneg
  exact ⟨mul_nonneg hpos hp, mul_le_mul hcast hq hp (by norm_num)⟩

theorem div_natCast_bounds {q : ℝ} (hq : 0 ≤ q) (n : ℕ) : 0 ≤ q / (n : ℝ) ∧ q / (n : ℝ) ≤ q := by
  refine ⟨div_nonneg hq n.cast_nonneg, ?_⟩
  cases n with
  | zero => simpa using hq
  | succ n =>
    refine div_le_self hq ?_
    exact_mod_cast n.succ_pos

theorem foldl_max_bounds {measures : List ℝ} {b : ℝ} (h : ∀ x ∈ measures, x ≤ b) {start : ℝ}
    (hstart : 0 ≤ start) (hb : start ≤ b) :
    0 ≤ measures.foldl Scalar.max start ∧ measures.foldl Scalar.max start ≤ b := by
  induction measures generalizing start with
  | nil => exact ⟨hstart, hb⟩
  | cons x measures ih =>
    rw [List.foldl_cons, Scalar.max_eq]
    exact ih (fun y hy => h y (by simp [hy])) (hstart.trans (le_max_left _ _))
      (max_le hb (h x (by simp)))

theorem largest_bounds {measures : List ℝ} {b : ℝ} (hb : 0 ≤ b) (h : ∀ x ∈ measures, x ≤ b) :
    0 ≤ largest measures ∧ largest measures ≤ b := by
  have hzero : (0.0 : ℝ) = 0 := by norm_num
  rw [largest, hzero]
  exact foldl_max_bounds h le_rfl hb

end Numbers

section Containers

/-- Cells of the grid of containers that are no larger than a few containers make them. -/
structure SmallCells (shelves : Shelves ℝ) : Prop where
  margin : 0 ≤ shelves.margin ∧ shelves.margin ≤ 1000
  pitchX : 0 ≤ shelves.pitchX ∧ shelves.pitchX ≤ 3000
  pitchY : 0 ≤ shelves.pitchY ∧ shelves.pitchY ≤ 3000

theorem containerWidth_bounds {n : ℕ} (h : n ≤ few) :
    0 ≤ (containerWidth n : ℝ) ∧ (containerWidth n : ℝ) ≤ 1500 := by
  obtain ⟨hlow, hhigh⟩ := steps_bounds h (by norm_num : (0 : ℝ) ≤ 60) le_rfl
  rw [containerWidth]
  constructor <;> linarith

theorem containerHeight_bounds {n : ℕ} (h : n ≤ few) :
    0 ≤ (containerHeight n : ℝ) ∧ (containerHeight n : ℝ) ≤ 1500 := by
  obtain ⟨hlow, hhigh⟩ := steps_bounds h (by norm_num : (0 : ℝ) ≤ 40) le_rfl
  rw [containerHeight]
  constructor <;> linarith

variable {plan : Plan ℝ} {containers : List (Container ℝ)}

theorem smallCells_ofContainers (hp : Modest plan) (h : ∀ c ∈ containers, c.children.length ≤ few) :
    SmallCells (Shelves.ofContainers plan containers) := by
  obtain ⟨hgap, hgap'⟩ := hp.containerSpacing
  have hwidth : ∀ x ∈ (containers.map (·.children.length)).map (containerWidth : ℕ → ℝ),
      x ≤ 1500 := by
    intro x hx
    rw [List.map_map] at hx
    obtain ⟨c, hc, rfl⟩ := List.mem_map.mp hx
    exact (containerWidth_bounds (h c hc)).2
  have hheight :
      ∀ x ∈ (containers.map (·.children.length)).map (containerHeight : ℕ → ℝ), x ≤ 1500 := by
    intro x hx
    rw [List.map_map] at hx
    obtain ⟨c, hc, rfl⟩ := List.mem_map.mp hx
    exact (containerHeight_bounds (h c hc)).2
  obtain ⟨hw, hw'⟩ := largest_bounds (by norm_num) hwidth
  obtain ⟨hh, hh'⟩ := largest_bounds (by norm_num) hheight
  have hrow : (rowGap : ℝ) = 40 := by norm_num [rowGap]
  refine ⟨⟨hgap, hgap'⟩, ?_, ?_⟩ <;> simp only [Shelves.ofContainers] <;> constructor <;> linarith

structure Celled (c : Container ℝ) : Prop where
  x : 0 ≤ c.x ∧ c.x ≤ 61000
  y : 0 ≤ c.y ∧ c.y ≤ 61000
  width : 0 ≤ c.width ∧ c.width ≤ 1500
  height : 0 ≤ c.height ∧ c.height ≤ 1500

variable {shelves : Shelves ℝ} (hs : SmallCells shelves)
include hs

theorem celled_put {index : ℕ} (hi : index ≤ few) {c : Container ℝ} (hc : c.children.length ≤ few) :
    Celled (shelves.put index c) := by
  obtain ⟨hm, hm'⟩ := hs.margin
  obtain ⟨hcol, hcol'⟩ :=
    steps_bounds ((Nat.mod_le index shelves.columns).trans hi) hs.pitchX.1 hs.pitchX.2
  obtain ⟨hrow, hrow'⟩ :=
    steps_bounds ((Nat.div_le_self index shelves.columns).trans hi) hs.pitchY.1 hs.pitchY.2
  refine ⟨?_, ?_, containerWidth_bounds hc, containerHeight_bounds hc⟩ <;>
    simp only [Shelves.put] <;>
    constructor <;> linarith

theorem celled_putAll {index : ℕ} (hi : index + containers.length ≤ few)
    (h : ∀ c ∈ containers, c.children.length ≤ few) :
    ∀ c ∈ shelves.putAll index containers, Celled c := by
  induction containers generalizing index with
  | nil => simp [Shelves.putAll]
  | cons c rest ih =>
    rw [List.length_cons] at hi
    rw [Shelves.putAll, List.forall_mem_cons]
    exact ⟨celled_put hs (by omega) (h c (by simp)),
      ih (by omega) fun other ho => h other (by simp [ho])⟩

theorem bottom_bounds {count : ℕ} (h : count ≤ few) :
    0 ≤ shelves.bottom count ∧ shelves.bottom count ≤ 61000 := by
  obtain ⟨hm, hm'⟩ := hs.margin
  obtain ⟨hrow, hrow'⟩ :=
    steps_bounds ((rowsFor_le count shelves.columns).trans h) hs.pitchY.1 hs.pitchY.2
  rw [Shelves.bottom]
  constructor <;> linarith

end Containers

section Nodes

variable {w : ℝ} {node : Node ℝ}

theorem length_eraseDups_le (ids : List String) : ids.eraseDups.length ≤ ids.length := by
  match ids with
  | [] => simp
  | id :: rest =>
    have hfilter := List.length_filter_le (fun other => !(other == id)) rest
    have hrest := length_eraseDups_le (rest.filter fun other => !(other == id))
    rw [List.eraseDups_cons, List.length_cons, List.length_cons]
    omega
termination_by ids.length
decreasing_by
  exact Nat.lt_succ_of_le (List.length_filter_le _ _)

/-- A container claims no more ids than it lists. -/
theorem length_ids_le {ids taken : List String} {containers : List (Container ℝ)} {claim : Claim ℝ}
    (hc : claim ∈ List.zipWith Claim.mk containers (claims ids taken containers)) :
    claim.ids.length ≤ claim.container.children.length := by
  induction containers generalizing taken with
  | nil => simp at hc
  | cons c rest ih =>
    rw [claims, List.zipWith_cons_cons, List.mem_cons] at hc
    rcases hc with rfl | hc
    · exact (List.length_filter_le _ _).trans (length_eraseDups_le c.children)
    · exact ih hc

/-- Where a container of the grid seats its nodes. -/
theorem near_seat {claim : Claim ℝ} (hc : Celled claim.container) {slot : ℕ} (hslot : slot ≤ few)
    (hn : Sized w node) : Near (100000 + 20 * w) (claim.seat slot node) := by
  have hpad : (padding : ℝ) = 40 := by norm_num [padding]
  obtain ⟨hw, hw'⟩ := hn.width
  obtain ⟨hh, hh'⟩ := hn.height
  obtain ⟨hx, hx'⟩ := hc.x
  obtain ⟨hy, hy'⟩ := hc.y
  have hinner (size : ℝ) (hsize : 0 ≤ size ∧ size ≤ 1500) :
      0 ≤ Scalar.max (size - 2.0 * padding) 0.0 ∧ Scalar.max (size - 2.0 * padding) 0.0 ≤ 1500 := by
    rw [Scalar.max_eq, hpad]
    refine ⟨le_max_of_le_right (by norm_num), max_le ?_ (by norm_num)⟩
    linarith [hsize.2]
  have hcell (size : ℝ) (hsize : 0 ≤ size ∧ size ≤ 1500) (n : ℕ) :
      0 ≤ Scalar.max (size - 2.0 * padding) 0.0 / (n : ℝ) ∧
        Scalar.max (size - 2.0 * padding) 0.0 / (n : ℝ) ≤ 1500 := by
    obtain ⟨hlow, hhigh⟩ := div_natCast_bounds (hinner size hsize).1 n
    exact ⟨hlow, hhigh.trans (hinner size hsize).2⟩
  obtain ⟨hcw, hcw'⟩ := hcell _ hc.width (ceilSqrt claim.ids.length)
  obtain ⟨hch, hch'⟩ := hcell _ hc.height (rowsFor claim.ids.length (ceilSqrt claim.ids.length))
  obtain ⟨hcol, hcol'⟩ :=
    steps_bounds ((Nat.mod_le slot (ceilSqrt claim.ids.length)).trans hslot) hcw hcw'
  obtain ⟨hrow, hrow'⟩ :=
    steps_bounds ((Nat.div_le_self slot (ceilSqrt claim.ids.length)).trans hslot) hch hch'
  constructor <;> rw [abs_le] <;> simp only [Claim.seat] <;> constructor <;> linarith

variable {plan : Plan ℝ}

/-- Where the grid below the containers has its cells. -/
theorem near_put (hp : Modest plan) {levels : Levels ℝ}
    (hx : 0 ≤ levels.originX ∧ levels.originX ≤ 61000)
    (hy : 0 ≤ levels.originY ∧ levels.originY ≤ 61000) (hw : 0 ≤ levels.width ∧ levels.width ≤ w)
    (hh : 0 ≤ levels.height ∧ levels.height ≤ w) (hcount : levels.count ≤ few) {slot : ℕ}
    (hslot : slot ≤ few) :
    Near (100000 + 20 * w) (levels.put plan slot node) := by
  obtain ⟨hgap, hgap'⟩ := hp.nodeSpacing
  obtain ⟨hlevel, hlevel'⟩ := hp.levelSpacing
  have hpitch {size gap : ℝ} (hsize : 0 ≤ size ∧ size ≤ w) (hgap : 0 ≤ gap) (hgap' : gap ≤ 1000) :
      0 ≤ size + gap ∧ size + gap ≤ w + 1000 := ⟨by linarith [hsize.1], by linarith [hsize.2]⟩
  have hoffset : slot % levels.columns ≤ few := (Nat.mod_le _ _).trans hslot
  have hindex : (if plan.flow.isReversed then levels.count - 1 - slot / levels.columns
      else slot / levels.columns) ≤ few := by
    have hdiv := Nat.div_le_self slot levels.columns
    split_ifs
    · exact (Nat.sub_le _ _).trans ((Nat.sub_le _ _).trans hcount)
    · exact hdiv.trans hslot
  have hnear {origin pitch : ℝ} {k : ℕ} (ho : 0 ≤ origin ∧ origin ≤ 61000) (hk : k ≤ few)
      (hpitch : 0 ≤ pitch ∧ pitch ≤ w + 1000) : |origin + (k : ℝ) * pitch| ≤ 100000 + 20 * w := by
    obtain ⟨hlow, hhigh⟩ := steps_bounds hk hpitch.1 hpitch.2
    rw [abs_le]
    constructor <;> linarith [ho.1, ho.2]
  rw [Levels.put]
  by_cases hflow : plan.flow.isHorizontal = true
  · rw [if_pos hflow]
    exact ⟨hnear hx hindex (hpitch hw hlevel hlevel'), hnear hy hoffset (hpitch hh hgap hgap')⟩
  · rw [if_neg hflow]
    exact ⟨hnear hx hoffset (hpitch hw hgap hgap'), hnear hy hindex (hpitch hh hlevel hlevel')⟩

end Nodes

section Scenes

variable {w r : ℝ} {plan : Plan ℝ} {scene : Scene ℝ}

/-- A drawing of few nodes and containers, its nodes no larger than a limit. -/
structure Small (w : ℝ) (scene : Scene ℝ) : Prop where
  nodes : scene.nodes.length ≤ few
  containers : scene.containers.length ≤ few
  children : ∀ c ∈ scene.containers, c.children.length ≤ few
  sized : ∀ node ∈ scene.nodes, Sized w node

theorem placeNodes_near {claimed : List (Claim ℝ)} {put : ℕ → Node ℝ → Node ℝ}
    {nodes : List (Node ℝ)} {slot : ℕ}
    (hput : ∀ node ∈ nodes, ∀ k ≤ slot + nodes.length, Near r (put k node))
    (hseat : ∀ claim ∈ claimed, ∀ node ∈ nodes, ∀ k < claim.ids.length,
      Near r (claim.seat k node)) :
    ∀ node ∈ placeNodes claimed put slot nodes, Near r node := by
  induction nodes generalizing slot with
  | nil => simp [placeNodes]
  | cons node later ih =>
    have hseat' : ∀ claim ∈ claimed, ∀ other ∈ later, ∀ k < claim.ids.length,
        Near r (claim.seat k other) :=
      fun claim hc other ho => hseat claim hc other (by simp [ho])
    have hput' (start : ℕ) (hstart : start ≤ slot + 1) :
        ∀ other ∈ later, ∀ k ≤ start + later.length, Near r (put k other) := by
      intro other ho k hk
      exact hput other (by simp [ho]) k (by rw [List.length_cons]; omega)
    rw [placeNodes]
    split_ifs with hfree
    · rw [List.forall_mem_cons]
      exact ⟨hput node (by simp) slot (by omega), ih (hput' (slot + 1) le_rfl) hseat'⟩
    · rw [List.forall_mem_cons]
      refine ⟨?_, ih (hput' slot (by omega)) hseat'⟩
      cases hs : seat? claimed node with
      | none => simp [isFree, hs] at hfree
      | some seated =>
        obtain ⟨claim, hc, hfound⟩ := List.exists_of_findSome?_eq_some hs
        obtain ⟨k, hk, rfl⟩ := Option.map_eq_some_iff.mp hfound
        obtain ⟨hlt, -⟩ := List.idxOf?_eq_some_iff.mp hk
        exact hseat claim hc node (by simp) k hlt

theorem freeNodes_sublist (claimed : List (Claim ℝ)) (nodes : List (Node ℝ)) :
    (freeNodes claimed nodes).Sublist nodes := by
  induction nodes with
  | nil => exact List.Sublist.refl _
  | cons node later ih =>
    rw [freeNodes]
    split_ifs
    · exact ih.cons_cons node
    · exact ih.cons node

theorem celled_arrange (hp : Modest plan) (h : Small w scene) :
    ∀ c ∈ (scene.arrange plan).containers, Celled c :=
  celled_putAll (smallCells_ofContainers hp h.children) (by simpa using h.containers) h.children

theorem near_arrange (hp : Modest plan) (h : Small w scene) (hw : 0 ≤ w) :
    ∀ node ∈ (scene.arrange plan).nodes, Near (100000 + 20 * w) node := by
  have hs := smallCells_ofContainers hp h.children
  have hcelled := celled_arrange hp h
  have hchildren : ∀ c ∈ (Shelves.ofContainers plan scene.containers).putAll 0 scene.containers,
      c.children.length ≤ few := by
    have hboxless : Boxless fun c : Container ℝ => c.children := fun _ _ _ _ _ => rfl
    intro c hc
    have hmem := List.mem_map_of_mem (f := fun c : Container ℝ => c.children) hc
    rw [map_view_putAll hboxless] at hmem
    obtain ⟨before, hb, he⟩ := List.mem_map.mp hmem
    exact he ▸ h.children before hb
  refine placeNodes_near (fun node hn k hk => ?_) fun claim hclaim node hn k hk => ?_
  · have hfree (claimed : List (Claim ℝ)) := freeNodes_sublist claimed scene.nodes
    refine near_put hp ?_ ?_ ?_ ?_ ?_ (hk.trans ?_)
    · norm_num [Levels.ofNodes, gridMargin]
    · simp only [Levels.ofNodes]
      split_ifs
      · norm_num [gridMargin]
      · refine bottom_bounds hs ?_
        rw [length_putAll]
        exact h.containers
    · refine largest_bounds hw fun x hx => ?_
      obtain ⟨other, ho, rfl⟩ := List.mem_map.mp hx
      exact (h.sized other ((hfree _).subset ho)).width.2
    · refine largest_bounds hw fun x hx => ?_
      obtain ⟨other, ho, rfl⟩ := List.mem_map.mp hx
      exact (h.sized other ((hfree _).subset ho)).height.2
    · exact (rowsFor_le _ _).trans ((hfree _).length_le.trans h.nodes)
    · simpa using h.nodes
  · have hlength := (length_ids_le hclaim).trans (hchildren _ (claimed_subset hclaim).1)
    exact near_seat (hcelled _ (claimed_subset hclaim).1) (by omega) (h.sized node hn)

/-- Where the circle has its nodes. -/
theorem near_circle (hp : Modest plan) (h : Small w scene) :
    ∀ node ∈ (scene.circle plan).nodes, Near (100000 + 20 * w) node := by
  have hradius : (0 : ℝ) ≤ circleRadius scene.nodes.length ∧
      circleRadius scene.nodes.length ≤ (300 : ℝ) := by
    obtain ⟨hlow, hhigh⟩ := steps_bounds h.nodes (by norm_num : (0 : ℝ) ≤ 15) le_rfl
    rw [circleRadius, Scalar.max_eq]
    refine ⟨le_max_of_le_left (by norm_num), max_le (by norm_num) ?_⟩
    linarith
  have hturn {c : ℝ} (hc : |c| ≤ 1) : |circleRadius scene.nodes.length * c| ≤ 300 := by
    rw [abs_mul, abs_of_nonneg hradius.1]
    nlinarith [hradius.2, abs_nonneg c]
  have hnear {center step size : ℝ} (hcenter : 0 ≤ center ∧ center ≤ 10000) (hstep : |step| ≤ 300)
      (hsize : 0 ≤ size ∧ size ≤ w) : |center + step - size / 2.0| ≤ 100000 + 20 * w := by
    obtain ⟨hlow, hhigh⟩ := abs_le.mp hstep
    rw [abs_le]
    constructor <;> linarith [hcenter.1, hcenter.2, hsize.1, hsize.2]
  intro node hm
  obtain ⟨i, hi, rfl⟩ := List.mem_mapIdx.mp hm
  have hsized := h.sized _ (List.getElem_mem hi)
  exact ⟨hnear hp.centerX (hturn (Real.abs_cos_le_one _)) hsized.width,
    hnear hp.centerY (hturn (Real.abs_sin_le_one _)) hsized.height⟩

end Scenes

end ArchDiagram.Layout
