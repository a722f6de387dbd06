import Mathlib
import ArchDiagram.Proofs.Layout.Extent.Grid
import ArchDiagram.Proofs.Layout.Push

namespace ArchDiagram.Layout

section Pushes

variable {threshold r s : ℝ} {a b : Node ℝ}

theorem Near.moved {v : ℂ} (h : Near r a) (hv : ‖v‖ ≤ s) : Near (r + s) (a.moved v) := by
  have hx : |v.re| ≤ s := (Complex.abs_re_le_norm v).trans hv
  have hy : |v.im| ≤ s := (Complex.abs_im_le_norm v).trans hv
  exact ⟨(abs_add_le _ _).trans (add_le_add h.1 hx), (abs_add_le _ _).trans (add_le_add h.2 hy)⟩

theorem near_push? (ha : Near r a) (hb : Near s b) {moved : Node ℝ × Node ℝ}
    (h : push? threshold a b = some moved) :
    Near (r + threshold / 2) moved.1 ∧ Near (s + threshold / 2) moved.2 := by
  obtain ⟨hclose, rfl⟩ := push?_eq_some h
  have hway := norm_thrust_le hclose.le
  exact ⟨ha.moved ((norm_neg _).trans_le hway), hb.moved hway⟩

variable (ht : 0 ≤ threshold)
include ht

theorem near_against (ha : Near r a) {nodes : List (Node ℝ)} (h : ∀ b ∈ nodes, Near s b) :
    Near (r + nodes.length * (threshold / 2)) (against threshold a nodes).1 ∧
      ∀ b ∈ (against threshold a nodes).2.1, Near (s + threshold / 2) b := by
  induction nodes generalizing a r with
  | nil => exact ⟨ha.mono (by simp), by simp [against]⟩
  | cons b rest ih =>
    have hrest : ∀ other ∈ rest, Near s other := fun other ho => h other (by simp [ho])
    have hb : Near s b := h b (by simp)
    rw [List.length_cons, against]
    cases hp : push? threshold a b with
    | none =>
      obtain ⟨hfirst, hothers⟩ := ih ha hrest
      refine ⟨hfirst.mono ?_, ?_⟩
      · push_cast
        linarith
      · rw [List.forall_mem_cons]
        exact ⟨hb.mono (by linarith), hothers⟩
    | some moved =>
      obtain ⟨ha', hb'⟩ := near_push? ha hb hp
      obtain ⟨hfirst, hothers⟩ := ih ha' hrest
      refine ⟨hfirst.mono ?_, ?_⟩
      · push_cast
        linarith
      · rw [List.forall_mem_cons]
        exact ⟨hb', hothers⟩

/-- Every node meets every other node once. -/
theorem near_sweep (nodes : List (Node ℝ)) : ∀ r : ℝ, (∀ node ∈ nodes, Near r node) →
    ∀ node ∈ (sweep threshold nodes).1, Near (r + nodes.length * (threshold / 2)) node := by
  fun_induction sweep threshold nodes with
  | case1 => simp
  | case2 a rest first others ih =>
    intro r h
    rw [List.forall_mem_cons] at h
    obtain ⟨hfirst, hrest⟩ := near_against ht h.1 h.2
    have hlater := ih _ hrest
    rw [length_against] at hlater
    rw [List.forall_mem_cons, List.length_cons]
    refine ⟨hfirst.mono ?_, fun node hm => (hlater node hm).mono ?_⟩
    · push_cast
      linarith
    · push_cast
      linarith

end Pushes

section Boxes

variable {w r : ℝ}

structure Box.Within (r : ℝ) (box : Box ℝ) : Prop where
  left : |box.left| ≤ r
  top : |box.top| ≤ r
  right : |box.right| ≤ r
  bottom : |box.bottom| ≤ r

theorem abs_min_le {x y : ℝ} (hx : |x| ≤ r) (hy : |y| ≤ r) : |Scalar.min x y| ≤ r := by
  rw [Scalar.min_eq]
  exact (abs_min_le_max_abs_abs).trans (max_le hx hy)

theorem abs_max_le {x y : ℝ} (hx : |x| ≤ r) (hy : |y| ≤ r) : |Scalar.max x y| ≤ r := by
  rw [Scalar.max_eq]
  exact (abs_max_le_max_abs_abs).trans (max_le hx hy)

theorem Box.Within.join {a b : Box ℝ} (ha : a.Within r) (hb : b.Within r) : (a.join b).Within r :=
  ⟨abs_min_le ha.left hb.left, abs_min_le ha.top hb.top, abs_max_le ha.right hb.right,
    abs_max_le ha.bottom hb.bottom⟩

theorem within_ofNode {node : Node ℝ} (hn : Near r node) (hs : Sized w node) :
    (Box.ofNode node).Within (r + w) := by
  obtain ⟨hx, hy⟩ := hn
  obtain ⟨hw, hw'⟩ := hs.width
  obtain ⟨hh, hh'⟩ := hs.height
  rw [abs_le] at hx hy
  constructor <;> rw [abs_le] <;> simp only [Box.ofNode, Node.right, Node.bottom] <;>
    constructor <;> linarith

theorem within_boundingBox? {nodes : List (Node ℝ)} (h : ∀ node ∈ nodes, Near r node ∧ Sized w node)
    {box : Box ℝ} (hb : boundingBox? nodes = some box) : box.Within (r + w) := by
  have hfold {start : Box ℝ} (hstart : start.Within (r + w)) :
      ∀ rest : List (Node ℝ), (∀ node ∈ rest, Near r node ∧ Sized w node) →
        (rest.foldl (fun box n => box.join (.ofNode n)) start).Within (r + w) := by
    intro rest hrest
    induction rest generalizing start with
    | nil => exact hstart
    | cons node rest ih =>
      rw [List.forall_mem_cons] at hrest
      exact ih (hstart.join (within_ofNode hrest.1.1 hrest.1.2)) hrest.2
  cases nodes with
  | nil => contradiction
  | cons node rest =>
    obtain rfl := Option.some.inj hb
    rw [List.forall_mem_cons] at h
    exact hfold (within_ofNode h.1.1 h.1.2) rest h.2

/-- All numbers of the box of a container are within a distance of zero. -/
structure Boxed (r : ℝ) (c : Container ℝ) : Prop where
  x : |c.x| ≤ r
  y : |c.y| ≤ r
  width : |c.width| ≤ r
  height : |c.height| ≤ r

theorem boxed_fitContainer {nodes : List (Node ℝ)} (h : ∀ node ∈ nodes, Near r node ∧ Sized w node)
    {c : Container ℝ} (hc : Boxed (2 * (r + w) + 80) c) (hr : 0 ≤ r + w) :
    Boxed (2 * (r + w) + 80) (fitContainer nodes c) := by
  have hpad : (padding : ℝ) = 40 := by norm_num [padding]
  rw [fitContainer]
  cases hb : boundingBox? (nodes.filter (isMember c)) with
  | none => exact hc
  | some box =>
    obtain ⟨hleft, htop, hright, hbottom⟩ := within_boundingBox?
      (fun node hn => h node (List.mem_of_mem_filter hn)) hb
    rw [abs_le] at hleft htop hright hbottom
    constructor <;> rw [abs_le] <;> constructor <;> dsimp only <;> linarith

theorem offsetOf_bounds {coordinates : List ℝ} (h : ∀ x ∈ coordinates, |x| ≤ r) (hr : 0 ≤ r) :
    0 ≤ offsetOf coordinates ∧ offsetOf coordinates ≤ r := by
  have hfold (start : ℝ) (hstart : -r ≤ start ∧ start ≤ 0) :
      -r ≤ coordinates.foldl Scalar.min start ∧ coordinates.foldl Scalar.min start ≤ 0 := by
    induction coordinates generalizing start with
    | nil => exact hstart
    | cons x rest ih =>
      rw [List.forall_mem_cons] at h
      rw [List.foldl_cons, Scalar.min_eq]
      exact ih h.2 _ ⟨le_min hstart.1 (abs_le.mp h.1).1, (min_le_left _ _).trans hstart.2⟩
  have hzero : (0.0 : ℝ) = 0 := by norm_num
  obtain ⟨hlow, hhigh⟩ := hfold 0 ⟨by linarith, le_rfl⟩
  rw [offsetOf, hzero]
  constructor <;> linarith

/-- All numbers of a drawing are within a distance of zero. -/
structure Scene.Within (r : ℝ) (scene : Scene ℝ) : Prop where
  nodes : ∀ node ∈ scene.nodes, Near r node
  containers : ∀ c ∈ scene.containers, Boxed r c

theorem within_toOrigin {scene : Scene ℝ} (h : scene.Within r) (hr : 0 ≤ r) :
    scene.toOrigin.Within (2 * r) := by
  have hx : ∀ x ∈ scene.nodes.map (·.x) ++ scene.containers.map (·.x), |x| ≤ r := by
    rw [List.forall_mem_append, List.forall_mem_map, List.forall_mem_map]
    exact ⟨fun node hn => (h.nodes node hn).1, fun c hc => (h.containers c hc).x⟩
  have hy : ∀ y ∈ scene.nodes.map (·.y) ++ scene.containers.map (·.y), |y| ≤ r := by
    rw [List.forall_mem_append, List.forall_mem_map, List.forall_mem_map]
    exact ⟨fun node hn => (h.nodes node hn).2, fun c hc => (h.containers c hc).y⟩
  obtain ⟨hdx, hdx'⟩ := offsetOf_bounds hx hr
  obtain ⟨hdy, hdy'⟩ := offsetOf_bounds hy hr
  have hmove {x d : ℝ} (hx : |x| ≤ r) (hd : 0 ≤ d) (hd' : d ≤ r) : |x + d| ≤ 2 * r := by
    rw [abs_le] at hx ⊢
    constructor <;> linarith
  constructor
  · intro node hm
    obtain ⟨before, hb, rfl⟩ := List.mem_map.mp hm
    obtain ⟨hx, hy⟩ := h.nodes before hb
    exact ⟨hmove hx hdx hdx', hmove hy hdy hdy'⟩
  · intro c hm
    obtain ⟨before, hb, rfl⟩ := List.mem_map.mp hm
    obtain ⟨hx, hy, hwidth, hheight⟩ := h.containers before hb
    exact ⟨hmove hx hdx hdx', hmove hy hdy hdy', hwidth.trans (by linarith),
      hheight.trans (by linarith)⟩

end Boxes

end ArchDiagram.Layout
