import Mathlib
import ArchDiagram.Proofs.Exact
import ArchDiagram.Proofs.Layout.Unmoved

namespace ArchDiagram.Layout

/-- A node lies in a container with a margin on each side. -/
structure Enclosed (margin : ℝ) (c : Container ℝ) (node : Node ℝ) : Prop where
  left : c.x + margin ≤ node.x
  top : c.y + margin ≤ node.y
  right : node.x + node.width + margin ≤ c.x + c.width
  bottom : node.y + node.height + margin ≤ c.y + c.height

/-- A drawing without negative coordinates, each member of a container enclosed by it. -/
structure Scene.Framed (scene : Scene ℝ) : Prop where
  nodes : ∀ node ∈ scene.nodes, 0 ≤ node.x ∧ 0 ≤ node.y
  containers : ∀ c ∈ scene.containers, 0 ≤ c.x ∧ 0 ≤ c.y
  members : ∀ c ∈ scene.containers, ∀ node ∈ scene.nodes,
    node.id ∈ c.children ∨ node.owner = some c.id → Enclosed 40 c node

section Boxes

variable {node : Node ℝ} {nodes : List (Node ℝ)} {a b box : Box ℝ} {c : Container ℝ}

structure Box.Holds (box : Box ℝ) (node : Node ℝ) : Prop where
  left : box.left ≤ node.x
  top : box.top ≤ node.y
  right : node.x + node.width ≤ box.right
  bottom : node.y + node.height ≤ box.bottom

theorem holds_ofNode (node : Node ℝ) : (Box.ofNode node).Holds node :=
  ⟨le_rfl, le_rfl, le_rfl, le_rfl⟩

theorem Box.Holds.join (h : a.Holds node ∨ b.Holds node) : (a.join b).Holds node := by
  rcases h with h | h
  · constructor <;> simp only [Box.join, Scalar.min_eq, Scalar.max_eq]
    · exact (min_le_left _ _).trans h.left
    · exact (min_le_left _ _).trans h.top
    · exact h.right.trans (le_max_left _ _)
    · exact h.bottom.trans (le_max_left _ _)
  · constructor <;> simp only [Box.join, Scalar.min_eq, Scalar.max_eq]
    · exact (min_le_right _ _).trans h.left
    · exact (min_le_right _ _).trans h.top
    · exact h.right.trans (le_max_right _ _)
    · exact h.bottom.trans (le_max_right _ _)

theorem holds_foldl_join (h : box.Holds node ∨ node ∈ nodes) :
    (nodes.foldl (fun box n => box.join (.ofNode n)) box).Holds node := by
  induction nodes generalizing box with
  | nil => exact h.resolve_right List.not_mem_nil
  | cons first nodes ih =>
    refine ih ?_
    rcases h with h | h
    · exact Or.inl (Box.Holds.join (Or.inl h))
    · rcases List.mem_cons.mp h with rfl | h
      · exact Or.inl (Box.Holds.join (Or.inr (holds_ofNode node)))
      · exact Or.inr h

/-- The box around some nodes holds each of them. -/
theorem exists_boundingBox? (hm : node ∈ nodes) :
    ∃ box, boundingBox? nodes = some box ∧ box.Holds node := by
  cases nodes with
  | nil => contradiction
  | cons first nodes =>
    refine ⟨_, rfl, holds_foldl_join ?_⟩
    rcases List.mem_cons.mp hm with rfl | hm
    · exact Or.inl (holds_ofNode node)
    · exact Or.inr hm

theorem enclosed_fitContainer (hm : node ∈ nodes) (hc : isMember c node = true) :
    Enclosed 40 (fitContainer nodes c) node := by
  have hpadding : (padding : ℝ) = 40 := by norm_num [padding]
  have hmember : node ∈ nodes.filter (isMember c) := List.mem_filter.mpr ⟨hm, hc⟩
  obtain ⟨box, hbox, hleft, htop, hright, hbottom⟩ := exists_boundingBox? hmember
  rw [fitContainer, hbox]
  constructor <;> dsimp only <;> linarith

end Boxes

section Origin

variable {coordinates : List ℝ} {x start : ℝ}

theorem foldl_min_le (h : start ≤ x ∨ x ∈ coordinates) :
    coordinates.foldl Scalar.min start ≤ x := by
  induction coordinates generalizing start with
  | nil => exact h.resolve_right List.not_mem_nil
  | cons y coordinates ih =>
    rw [List.foldl_cons, Scalar.min_eq]
    refine ih ?_
    rcases h with h | h
    · exact Or.inl ((min_le_left _ _).trans h)
    · rcases List.mem_cons.mp h with rfl | h
      · exact Or.inl (min_le_right _ _)
      · exact Or.inr h

theorem offset_nonneg (hm : x ∈ coordinates) : 0 ≤ x + offsetOf coordinates := by
  have hleast : coordinates.foldl Scalar.min 0.0 ≤ x := foldl_min_le (Or.inr hm)
  rw [offsetOf]
  linarith

/-- Nodes and containers keep their distances. -/
theorem Enclosed.moved {margin : ℝ} {c : Container ℝ} {node : Node ℝ} (h : Enclosed margin c node)
    (dx dy : ℝ) :
    Enclosed margin { c with x := c.x + dx, y := c.y + dy }
      { node with x := node.x + dx, y := node.y + dy } := by
  obtain ⟨hleft, htop, hright, hbottom⟩ := h
  constructor <;> dsimp only <;> linarith

end Origin

theorem isMember_of_listed {c : Container ℝ} {node : Node ℝ}
    (h : node.id ∈ c.children ∨ node.owner = some c.id) : isMember c node = true := by
  rw [isMember, Bool.or_eq_true, List.contains_iff_mem, beq_iff_eq]
  exact h

theorem framed_toOrigin_fit (scene : Scene ℝ) : scene.fit.toOrigin.Framed := by
  have hx : ∀ x ∈ scene.fit.nodes.map (·.x) ++ scene.fit.containers.map (·.x),
      0 ≤ x + scene.fit.offsetX :=
    fun x hm => offset_nonneg hm
  have hy : ∀ y ∈ scene.fit.nodes.map (·.y) ++ scene.fit.containers.map (·.y),
      0 ≤ y + scene.fit.offsetY :=
    fun y hm => offset_nonneg hm
  simp only [List.forall_mem_append, List.forall_mem_map] at hx hy
  refine ⟨?_, ?_, ?_⟩
  · intro node hm
    obtain ⟨before, hb, rfl⟩ := List.mem_map.mp hm
    exact ⟨hx.1 before hb, hy.1 before hb⟩
  · intro c hm
    obtain ⟨before, hb, rfl⟩ := List.mem_map.mp hm
    exact ⟨hx.2 before hb, hy.2 before hb⟩
  · intro c hc node hn hmember
    obtain ⟨fitted, hf, rfl⟩ := List.mem_map.mp hc
    obtain ⟨before, hb, rfl⟩ := List.mem_map.mp hn
    obtain ⟨loose, -, rfl⟩ := List.mem_map.mp hf
    have hboxless : Boxless fun c : Container ℝ => (c.id, c.children) := fun _ _ _ _ _ => rfl
    obtain ⟨hid, hchildren⟩ := Prod.mk.inj (view_fitContainer hboxless scene.nodes loose)
    refine (enclosed_fitContainer hb (isMember_of_listed ?_)).moved _ _
    dsimp only at hmember
    rwa [hid, hchildren] at hmember

/-- A layout of any nodes and containers by any plan, with exact numbers and any functions for sine
and cosine, ends with a framed drawing of the same nodes and containers. -/
theorem position_framed (sin cos : ℝ → ℝ) (plan : Plan ℝ) (a : Prompt.Analysis ℝ)
    (scene : Scene ℝ) :
    letI := Scalar.real sin cos
    (scene.position plan a).Framed ∧
      (scene.position plan a).nodes.map
          (fun node => (node.id, node.label, node.icon, node.width, node.height, node.style)) =
        scene.nodes.map
          (fun node => (node.id, node.label, node.icon, node.width, node.height, node.style)) ∧
      (scene.position plan a).containers.map (fun c => (c.id, c.label, c.kind, c.children)) =
        scene.containers.map fun c => (c.id, c.label, c.kind, c.children) := by
  let _ : Scalar ℝ := Scalar.real sin cos
  refine ⟨?_, ?_, ?_⟩
  · -- Sine and cosine only occur where nodes are placed, so that the last passes are the usual
    -- ones.
    exact framed_toOrigin_fit _
  · exact map_view_position (fun _ _ _ => rfl) (fun _ _ _ _ _ _ _ => rfl) plan a
  · exact map_view_containers_position (fun _ _ _ _ _ => rfl) scene plan a

end ArchDiagram.Layout
