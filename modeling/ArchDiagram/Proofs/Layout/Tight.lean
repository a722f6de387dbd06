import Mathlib
import ArchDiagram.Proofs.Layout.Framed
import ArchDiagram.Proofs.Redrawn

namespace ArchDiagram.Layout

/-- The nodes that a container lists or that name it as their own. -/
def membersOf (nodes : List (Node ℝ)) (c : Container ℝ) : Set (Node ℝ) :=
  {node | node ∈ nodes ∧ (node.id ∈ c.children ∨ node.owner = some c.id)}

/-- Each edge of a container is 40 away from the outermost edge of some nodes on its side. -/
structure Tight (members : Set (Node ℝ)) (c : Container ℝ) : Prop where
  left : IsLeast (Node.x '' members) (c.x + 40)
  top : IsLeast (Node.y '' members) (c.y + 40)
  right : IsGreatest (Node.right '' members) (c.x + c.width - 40)
  bottom : IsGreatest (Node.bottom '' members) (c.y + c.height - 40)

structure Inside (outer inner : Container ℝ) : Prop where
  left : outer.x ≤ inner.x
  top : outer.y ≤ inner.y
  right : inner.x + inner.width ≤ outer.x + outer.width
  bottom : inner.y + inner.height ≤ outer.y + outer.height

def boxOf (c : Container ℝ) : ℝ × ℝ × ℝ × ℝ := (c.x, c.y, c.width, c.height)

section Around

variable {members others : Set (Node ℝ)} {a b box : Box ℝ} {nodes : List (Node ℝ)}

/-- A rectangle is the smallest one around some nodes. -/
structure Box.Around (box : Box ℝ) (members : Set (Node ℝ)) : Prop where
  left : IsLeast (Node.x '' members) box.left
  top : IsLeast (Node.y '' members) box.top
  right : IsGreatest (Node.right '' members) box.right
  bottom : IsGreatest (Node.bottom '' members) box.bottom

theorem around_ofNode (node : Node ℝ) : (Box.ofNode node).Around {node} := by
  constructor <;> rw [Set.image_singleton]
  · exact isLeast_singleton
  · exact isLeast_singleton
  · exact isGreatest_singleton
  · exact isGreatest_singleton

theorem Box.Around.join (ha : a.Around members) (hb : b.Around others) :
    (a.join b).Around (members ∪ others) := by
  constructor <;> rw [Set.image_union] <;> simp only [Box.join, Scalar.min_eq, Scalar.max_eq]
  · exact ha.left.union hb.left
  · exact ha.top.union hb.top
  · exact ha.right.union hb.right
  · exact ha.bottom.union hb.bottom

/-- The fold keeps the smallest rectangle around the nodes that it has seen. -/
theorem around_foldl_join (h : box.Around members) :
    (nodes.foldl (fun box n => box.join (.ofNode n)) box).Around
      (members ∪ {node | node ∈ nodes}) := by
  induction nodes generalizing box members with
  | nil => simpa using h
  | cons node nodes ih =>
    have hnext := ih (h.join (around_ofNode node))
    have hset : members ∪ {n | n ∈ node :: nodes} = members ∪ {node} ∪ {n | n ∈ nodes} := by
      ext n
      simp [or_assoc, or_left_comm]
    rw [List.foldl_cons, hset]
    exact hnext

theorem around_boundingBox? (h : boundingBox? nodes = some box) :
    box.Around {node | node ∈ nodes} := by
  cases nodes with
  | nil => contradiction
  | cons node nodes =>
    have hset : {n | n ∈ node :: nodes} = {node} ∪ {n | n ∈ nodes} := by
      ext n
      simp
    obtain rfl := Option.some.inj h
    rw [hset]
    exact around_foldl_join (around_ofNode node)

end Around

section Fitted

variable {members : Set (Node ℝ)} {nodes nodes' : List (Node ℝ)}
  {c c' fitted : Container ℝ} {node : Node ℝ}

theorem mem_filter_isMember :
    node ∈ nodes.filter (isMember c) ↔ node ∈ membersOf nodes c := by
  rw [List.mem_filter, isMember, Bool.or_eq_true, List.contains_iff_mem, beq_iff_eq]
  rfl

theorem membersOf_congr (hnodes : nodes'.Perm nodes) (hid : c'.id = c.id)
    (hchildren : ∀ id, id ∈ c'.children ↔ id ∈ c.children) :
    membersOf nodes' c' = membersOf nodes c := by
  ext node
  simp [membersOf, hnodes.mem_iff, hid, hchildren]

theorem fitContainer_of_memberless (h : membersOf nodes c = ∅) : fitContainer nodes c = c := by
  have hnone : nodes.filter (isMember c) = [] := by
    rw [List.eq_nil_iff_forall_not_mem]
    intro node hm
    rw [mem_filter_isMember, h] at hm
    exact hm
  rw [fitContainer, hnone]
  rfl

theorem tight_fitContainer (h : (membersOf nodes c).Nonempty) :
    Tight (membersOf nodes c) (fitContainer nodes c) := by
  have hpadding : (padding : ℝ) = 40 := by norm_num [padding]
  have htwice : (2.0 : ℝ) * padding = 80 := by norm_num [padding]
  have hset : {node | node ∈ nodes.filter (isMember c)} = membersOf nodes c :=
    Set.ext fun _ => mem_filter_isMember
  obtain ⟨node, hm⟩ := h
  obtain ⟨box, hbox, -⟩ := exists_boundingBox? (mem_filter_isMember.mpr hm)
  have haround := around_boundingBox? hbox
  rw [hset] at haround
  have hleft : box.left - padding + 40 = box.left := by rw [hpadding]; ring
  have htop : box.top - padding + 40 = box.top := by rw [hpadding]; ring
  have hright : box.left - padding + (box.right - box.left + 2.0 * padding) - 40 = box.right := by
    rw [htwice, hpadding]
    ring
  have hbottom : box.top - padding + (box.bottom - box.top + 2.0 * padding) - 40 = box.bottom := by
    rw [htwice, hpadding]
    ring
  rw [fitContainer, hbox]
  constructor
  · simpa only [hleft] using haround.left
  · simpa only [htop] using haround.top
  · simpa only [hright] using haround.right
  · simpa only [hbottom] using haround.bottom

theorem Tight.enclosed (h : Tight members c) (hm : node ∈ members) : Enclosed 40 c node := by
  have hleft := h.left.2 (Set.mem_image_of_mem Node.x hm)
  have htop := h.top.2 (Set.mem_image_of_mem Node.y hm)
  have hright := h.right.2 (Set.mem_image_of_mem Node.right hm)
  have hbottom := h.bottom.2 (Set.mem_image_of_mem Node.bottom hm)
  rw [Node.right] at hright
  rw [Node.bottom] at hbottom
  constructor <;> linarith

/-- A node that lies in a container by any margin is enclosed by it. -/
theorem Enclosed.encloses {margin : ℝ} (h : Enclosed margin c node) (hmargin : 0 ≤ margin) :
    c.encloses node = true := by
  obtain ⟨hleft, htop, hright, hbottom⟩ := h
  have htolerance : (0 : ℝ) ≤ Container.tolerance := by norm_num [Container.tolerance]
  simp only [Container.encloses, Bool.and_eq_true, decide_eq_true_eq]
  rw [Node.right, Node.bottom]
  refine ⟨⟨⟨?_, ?_⟩, ?_⟩, ?_⟩ <;> linarith

/-- A tight box lies in every box that leaves its members the same margin. -/
theorem Tight.inside (h : Tight members c) {outer : Container ℝ}
    (houter : ∀ node ∈ members, Enclosed 40 outer node) : Inside outer c := by
  obtain ⟨leftmost, hl, hleft⟩ := h.left.1
  obtain ⟨topmost, ht, htop⟩ := h.top.1
  obtain ⟨rightmost, hr, hright⟩ := h.right.1
  obtain ⟨lowest, hb, hbottom⟩ := h.bottom.1
  have hleft' := (houter leftmost hl).left
  have htop' := (houter topmost ht).top
  have hright' := (houter rightmost hr).right
  have hbottom' := (houter lowest hb).bottom
  rw [Node.right] at hright
  rw [Node.bottom] at hbottom
  constructor <;> linarith

/-- Two tight boxes around the same nodes are one. -/
theorem Tight.unique (h : Tight members c) (h' : Tight members c') : boxOf c = boxOf c' := by
  have hleft := h.left.unique h'.left
  have htop := h.top.unique h'.top
  have hright := h.right.unique h'.right
  have hbottom := h.bottom.unique h'.bottom
  have hx : c.x = c'.x := by linarith
  have hy : c.y = c'.y := by linarith
  have hwidth : c.width = c'.width := by linarith
  have hheight : c.height = c'.height := by linarith
  rw [boxOf, boxOf, hx, hy, hwidth, hheight]

theorem unboxed_fitContainer (nodes : List (Node ℝ)) (c : Container ℝ) :
    (fitContainer nodes c).unboxed = c.unboxed :=
  view_fitContainer (fun _ _ _ _ _ => rfl) nodes c

theorem eq_of_unboxed (hrest : c.unboxed = c'.unboxed) (hbox : boxOf c = boxOf c') : c = c' := by
  cases c
  cases c'
  simp_all [Container.unboxed, boxOf]

theorem membersOf_fitContainer : membersOf nodes (fitContainer nodes' c) = membersOf nodes c := by
  have hids : Boxless fun c : Container ℝ => (c.id, c.children) := fun _ _ _ _ _ => rfl
  obtain ⟨hid, hchildren⟩ := Prod.mk.inj (view_fitContainer hids nodes' c)
  rw [membersOf, membersOf, hid, hchildren]

/-- A fitted container is fitted already. -/
theorem fitContainer_fitContainer (nodes : List (Node ℝ)) (c : Container ℝ) :
    fitContainer nodes (fitContainer nodes c) = fitContainer nodes c := by
  rcases Set.eq_empty_or_nonempty (membersOf nodes c) with hnone | hsome
  · rw [fitContainer_of_memberless hnone, fitContainer_of_memberless hnone]
  · have hfirst := tight_fitContainer hsome
    have hagain : Tight (membersOf nodes c) (fitContainer nodes (fitContainer nodes c)) := by
      have hmembers : membersOf nodes (fitContainer nodes c) = membersOf nodes c :=
        membersOf_fitContainer
      rw [← hmembers] at hsome ⊢
      exact tight_fitContainer hsome
    exact eq_of_unboxed (unboxed_fitContainer _ _) (hagain.unique hfirst)

end Fitted

/-- Fitting draws the tightest box with the padding around the members of each container, and
changes nothing else. The box depends on the members alone, and fitting again changes nothing. -/
theorem fit_tightest (scene : Scene ℝ) :
    scene.fit.nodes = scene.nodes ∧
      scene.fit.containers.map Container.unboxed = scene.containers.map Container.unboxed ∧
      List.Forall₂ (fun c fitted =>
          (membersOf scene.nodes c = ∅ → fitted = c) ∧
          ((membersOf scene.nodes c).Nonempty →
            Tight (membersOf scene.nodes c) fitted ∧
              (∀ node ∈ membersOf scene.nodes c, Enclosed 40 fitted node ∧
                fitted.encloses node = true) ∧
              ∀ outer, (∀ node ∈ membersOf scene.nodes c, Enclosed 40 outer node) →
                Inside outer fitted))
        scene.containers scene.fit.containers ∧
      (∀ (other : Scene ℝ) (i j : ℕ) (c c' : Container ℝ), other.nodes.Perm scene.nodes →
        scene.containers[i]? = some c → other.containers[j]? = some c' → c'.id = c.id →
        (∀ id, id ∈ c'.children ↔ id ∈ c.children) → (membersOf scene.nodes c).Nonempty →
        other.fit.containers[j]?.map boxOf = scene.fit.containers[i]?.map boxOf) ∧
      scene.fit.fit = scene.fit := by
  refine ⟨rfl, map_view_fit (fun _ _ _ _ _ => rfl) scene, ?_, ?_, ?_⟩
  · rw [Scene.fit, List.forall₂_map_right_iff, List.forall₂_same]
    intro c _
    refine ⟨fitContainer_of_memberless, fun hsome => ?_⟩
    have htight := tight_fitContainer hsome
    have henclosed : ∀ node ∈ membersOf scene.nodes c,
        Enclosed 40 (fitContainer scene.nodes c) node :=
      fun node hm => htight.enclosed hm
    exact ⟨htight, fun node hm => ⟨henclosed node hm, (henclosed node hm).encloses (by norm_num)⟩,
      fun outer houter => htight.inside houter⟩
  · intro other i j c c' hnodes hi hj hid hchildren hsome
    have hmembers := membersOf_congr hnodes hid hchildren
    have htight := tight_fitContainer hsome
    have htight' : Tight (membersOf scene.nodes c) (fitContainer other.nodes c') := by
      rw [← hmembers] at hsome ⊢
      exact tight_fitContainer hsome
    simp only [Scene.fit, List.getElem?_map, hi, hj, Option.map_some]
    exact congrArg some (htight'.unique htight)
  · have hcontainers : scene.fit.fit.containers = scene.fit.containers := by
      simp only [Scene.fit, List.map_map]
      apply List.map_congr_left
      intro c _
      exact fitContainer_fitContainer scene.nodes c
    simp only [Scene.fit] at hcontainers ⊢
    rw [hcontainers]

end ArchDiagram.Layout
