import Mathlib
import ArchDiagram.Proofs.Generate
import ArchDiagram.Proofs.Layout.Tight

namespace ArchDiagram

open Layout Source

/-- A number lies in the signed 64-bit range. -/
def Storable (x : ℝ) : Prop := -9223372036854775808 ≤ x ∧ x ≤ 9223372036854775807

structure StorableBoxes (d : Diagram ℝ) : Prop where
  nodes : ∀ node ∈ d.nodes, Storable node.x ∧ Storable node.y ∧ Storable node.width ∧
  Storable node.height
  containers : ∀ c ∈ d.containerList,
    Storable c.x ∧ Storable c.y ∧ Storable c.width ∧ Storable c.height

/-- No coordinate is negative. The children of a container are nodes that lie in it, and so do the
nodes that the container had before. -/
structure Saved (before after : Diagram ℝ) : Prop where
  nodes : ∀ node ∈ after.nodes, 0 ≤ node.x ∧ 0 ≤ node.y
  containers : ∀ c ∈ after.containerList, 0 ≤ c.x ∧ 0 ≤ c.y
  known : ∀ c ∈ after.containerList, ∀ child ∈ c.children, ∃ node ∈ after.nodes, node.id = child
  children : ∀ c ∈ after.containerList, ∀ node ∈ after.nodes, node.id ∈ c.children →
    Enclosed 38 c node ∧ c.encloses node = true
  members : ∀ c ∈ before.containerList, ∀ node ∈ before.nodes,
    node.id ∈ c.children ∨ node.owner = some c.id →
      ∀ c' ∈ after.containerList, c'.id = c.id → ∀ node' ∈ after.nodes, node'.id = node.id →
        Enclosed 38 c' node' ∧ c'.encloses node' = true

section Rounding

variable {x : ℝ} {node : Node ℝ} {c : Container ℝ}

/-- A stored number is half a unit away from the number itself at most. -/
theorem Storable.error (h : Storable x) : |x - (Scalar.nearest x : Int)| ≤ 1 / 2 := by
  have hnearest : Scalar.nearest x = roundAway x := saturated_roundAway h.1 h.2
  rw [hnearest]
  exact roundAway_error x

theorem nearest_nonneg (h : 0 ≤ x) : (0 : ℝ) ≤ (Scalar.nearest x : Int) := by
  have hround : 0 ≤ roundAway x := le_roundAway (by exact_mod_cast h)
  have hnearest : 0 ≤ (Scalar.nearest x : Int) := by
    change 0 ≤ saturated (roundAway x)
    rw [saturated]
    omega
  exact_mod_cast hnearest

/-- Each edge moves by one unit at most, since it is made of two numbers at most. -/
theorem enclosed_reread (h : Enclosed 40 c node)
    (hnode : Storable node.x ∧ Storable node.y ∧ Storable node.width ∧ Storable node.height)
    (hc : Storable c.x ∧ Storable c.y ∧ Storable c.width ∧ Storable c.height)
    (owner : Option String) (children : List String) :
    Enclosed 38 (rereadContainer c children) (reread node owner) := by
  obtain ⟨hx, hy, hwidth, hheight⟩ := hnode
  obtain ⟨hcx, hcy, hcwidth, hcheight⟩ := hc
  have ex := abs_le.mp hx.error
  have ey := abs_le.mp hy.error
  have ewidth := abs_le.mp hwidth.error
  have eheight := abs_le.mp hheight.error
  have ecx := abs_le.mp hcx.error
  have ecy := abs_le.mp hcy.error
  have ecwidth := abs_le.mp hcwidth.error
  have echeight := abs_le.mp hcheight.error
  constructor
  · show ((Scalar.nearest c.x : Int) : ℝ) + 38 ≤ (Scalar.nearest node.x : Int)
    linarith [h.left]
  · show ((Scalar.nearest c.y : Int) : ℝ) + 38 ≤ (Scalar.nearest node.y : Int)
    linarith [h.top]
  · show ((Scalar.nearest node.x : Int) : ℝ) + (Scalar.nearest node.width : Int) + 38 ≤
      (Scalar.nearest c.x : Int) + (Scalar.nearest c.width : Int)
    linarith [h.right]
  · show ((Scalar.nearest node.y : Int) : ℝ) + (Scalar.nearest node.height : Int) + 38 ≤
      (Scalar.nearest c.y : Int) + (Scalar.nearest c.height : Int)
    linarith [h.bottom]

end Rounding

section Reread

variable {α : Type} {d : Diagram α}

/-- A container that a node is written into lists the node or is named by it. -/
theorem belongs_of_ownerIndex? {node : Node α} {i : Nat} {c : Container α}
    (hi : d.containerList[i]? = some c) (ho : ownerIndex? d node = some i) :
    node.id ∈ c.children ∨ node.owner = some c.id := by
  have hfound {p : Container α → Bool} (hp : d.containerList.findIdx? p = some i) : p c = true := by
    obtain ⟨hlt, hpi, -⟩ := List.findIdx?_eq_some_iff_getElem.mp hp
    have hget : d.containerList[i] = c :=
      Option.some.inj ((List.getElem?_eq_getElem hlt).symm.trans hi)
    rwa [hget] at hpi
  rcases Option.or_eq_some_iff.mp ho with hl | ⟨-, hl⟩
  · exact Or.inl (by simpa using hfound hl)
  · obtain ⟨id, hid, hl⟩ := Option.bind_eq_some_iff.mp hl
    have hown : c.id = id := by simpa using hfound hl
    exact Or.inr (hid.trans (congrArg some hown.symm))

variable [Scalar α]

/-- Every written node was a node of the diagram. -/
theorem exists_of_mem_rereadNodes (h : Legible d) {node : Node α} (hm : node ∈ rereadNodes d) :
    ∃ old ∈ d.nodes, ∃ owner, node = reread old owner := by
  rcases List.mem_append.mp hm with hm | hm
  · obtain ⟨old, ho, rfl⟩ := List.mem_map.mp hm
    exact ⟨old, List.mem_of_mem_filter ho, none, rfl⟩
  · obtain ⟨item, hitem, hm⟩ := List.mem_flatMap.mp hm
    obtain ⟨old, ho, rfl⟩ := List.mem_map.mp hm
    exact ⟨old, (h.filled_mem hitem).2 old ho, some item.1.id, rfl⟩

/-- Every child of a written container was a member of the container. -/
theorem exists_of_mem_children (h : Legible d) {c : Container α} (hm : c ∈ rereadContainers d)
    {child : String} (hchild : child ∈ c.children) :
    ∃ old ∈ d.containerList, old.id = c.id ∧ ∃ node ∈ d.nodes, node.id = child ∧
      (node.id ∈ old.children ∨ node.owner = some old.id) := by
  obtain ⟨item, hitem, rfl⟩ := List.mem_map.mp hm
  obtain ⟨node, hn, rfl⟩ := List.mem_map.mp hchild
  obtain ⟨i, hi, hmembers⟩ := filled_get hitem
  rw [hmembers, mem_members_iff h.nodeIds] at hn
  exact ⟨item.1, List.mem_of_getElem? hi, rfl, node, hn.1, rfl, belongs_of_ownerIndex? hi hn.2⟩

/-- Every written container was a container of the diagram. -/
theorem exists_of_mem_rereadContainers (h : Legible d) {c : Container α}
    (hm : c ∈ rereadContainers d) :
    ∃ old ∈ d.containerList, ∃ children, c = rereadContainer old children := by
  obtain ⟨item, hitem, rfl⟩ := List.mem_map.mp hm
  exact ⟨item.1, (h.filled_mem hitem).1, item.2.map (·.id), rfl⟩

end Reread

section Position

variable {α : Type} [Scalar α] {d : Diagram α}

theorem exists_of_mem_nodes_position {plan : Plan α} {a : Prompt.Analysis α} {node : Node α}
    (hm : node ∈ (d.position plan a).nodes) :
    ∃ old ∈ d.nodes, old.id = node.id ∧ old.label = node.label := by
  have hplaceless : Placeless fun n : Node α => (n.id, n.label) := fun _ _ _ => rfl
  have hseatless : Seatless (fun n => (n.id, n.label)) ⟨d.nodes, d.containerList⟩ :=
    fun _ _ _ _ _ _ _ => rfl
  have hview := map_view_position hplaceless hseatless plan a
  obtain ⟨old, ho, he⟩ := Diagram.exists_of_map_eq hview hm
  exact ⟨old, ho, Prod.mk.inj he⟩

theorem exists_of_mem_containers_position {plan : Plan α} {a : Prompt.Analysis α} {c : Container α}
    (hm : c ∈ (d.position plan a).containerList) :
    ∃ old ∈ d.containerList, old.id = c.id ∧ old.label = c.label ∧ old.children = c.children := by
  have hboxless : Boxless fun c : Container α => (c.id, c.label, c.children) := fun _ _ _ _ _ => rfl
  have hview := map_view_containers_position hboxless ⟨d.nodes, d.containerList⟩ plan a
  rw [Diagram.containerList_position] at hm
  obtain ⟨old, ho, he⟩ := Diagram.exists_of_map_eq hview hm
  obtain ⟨hid, hrest⟩ := Prod.mk.inj he
  exact ⟨old, ho, hid, Prod.mk.inj hrest⟩

theorem nodeIds_position (d : Diagram α) (plan : Plan α) (a : Prompt.Analysis α) :
    (d.position plan a).nodes.map (·.id) = d.nodes.map (·.id) := by
  have hseatless : Seatless (fun n => n.id) ⟨d.nodes, d.containerList⟩ := fun _ _ _ _ _ _ _ => rfl
  exact map_view_position (fun _ _ _ => rfl) hseatless plan a

/-- A layout changes no text. -/
theorem Source.Legible.position (h : Legible d) (plan : Plan α) (a : Prompt.Analysis α) :
    Legible (d.position plan a) := by
  refine ⟨?_, ?_, ?_, ?_, h.ends, h.labels, ?_, h.title⟩
  · rw [nodeIds_position]
    exact h.nodeIds
  · rw [Diagram.containerList_position, map_view_containers_position fun _ _ _ _ _ => rfl]
    exact h.containerIds
  · intro node hm
    obtain ⟨old, ho, hid, hlabel⟩ := exists_of_mem_nodes_position hm
    rw [← hid, ← hlabel]
    exact h.nodes old ho
  · intro c hm
    obtain ⟨old, ho, hid, hlabel, -⟩ := exists_of_mem_containers_position hm
    rw [← hid, ← hlabel]
    exact h.containers old ho
  · intro c hm
    obtain ⟨old, ho, -, -, hchildren⟩ := exists_of_mem_containers_position hm
    rw [← hchildren]
    exact h.once old ho

end Position

section Exact

variable {d : Diagram ℝ}

/-- A drawing whose containers enclose their members with the padding can be saved. -/
theorem saved_of_framed (h : Legible d) (hf : Scene.Framed ⟨d.nodes, d.containerList⟩)
    (hs : StorableBoxes d) {d' : Diagram ℝ} (hnodes : d'.nodes = rereadNodes d)
    (hcontainers : d'.containerList = rereadContainers d) :
    Saved d d' := by
  have hmembers : ∀ c ∈ d.containerList, ∀ node ∈ d.nodes, node.id ∈ c.children ∨
      node.owner = some c.id →
      ∀ c' ∈ d'.containerList, c'.id = c.id → ∀ node' ∈ d'.nodes, node'.id = node.id →
        Enclosed 38 c' node' ∧ c'.encloses node' = true := by
    intro c hc node hn hbelongs c' hc' hcid node' hn' hnid
    rw [hnodes] at hn'
    rw [hcontainers] at hc'
    obtain ⟨old, ho, owner, rfl⟩ := exists_of_mem_rereadNodes h hn'
    obtain ⟨box, hb, children, rfl⟩ := exists_of_mem_rereadContainers h hc'
    obtain rfl := List.inj_on_of_nodup_map h.nodeIds ho hn hnid
    obtain rfl := List.inj_on_of_nodup_map h.containerIds hb hc hcid
    have henclosed := enclosed_reread (hf.members box hb old ho hbelongs) (hs.nodes old ho)
      (hs.containers box hb) owner children
    exact ⟨henclosed, henclosed.encloses (by norm_num)⟩
  refine ⟨?_, ?_, ?_, ?_, hmembers⟩
  · intro node hm
    rw [hnodes] at hm
    obtain ⟨old, ho, owner, rfl⟩ := exists_of_mem_rereadNodes h hm
    obtain ⟨hx, hy⟩ := hf.nodes old ho
    exact ⟨nearest_nonneg hx, nearest_nonneg hy⟩
  · intro c hm
    rw [hcontainers] at hm
    obtain ⟨old, ho, children, rfl⟩ := exists_of_mem_rereadContainers h hm
    obtain ⟨hx, hy⟩ := hf.containers old ho
    exact ⟨nearest_nonneg hx, nearest_nonneg hy⟩
  · intro c hm child hchild
    rw [hcontainers] at hm
    obtain ⟨-, -, -, node, hn, rfl, -⟩ := exists_of_mem_children h hm hchild
    have hid := h.perm_ids.mem_iff.mpr (List.mem_map_of_mem hn)
    rw [← hnodes] at hid
    exact List.mem_map.mp hid
  · intro c hm node hn hchild
    have hm' := hm
    rw [hcontainers] at hm'
    obtain ⟨old, ho, hid, before, hb, hnid, hbelongs⟩ := exists_of_mem_children h hm' hchild
    exact hmembers old ho before hb hbelongs c hm hid.symm node hn hnid.symm

theorem Bounded.storable {r : ℝ} (h : Bounded r d) (hr : r ≤ 9223372036854775807) :
    StorableBoxes d := by
  have hnumber {x : ℝ} (hx : |x| ≤ r) : Storable x := by
    obtain ⟨hlow, hhigh⟩ := abs_le.mp (hx.trans hr)
    exact ⟨by linarith, hhigh⟩
  constructor
  · intro node hm
    obtain ⟨hx, hy, hwidth, hheight⟩ := h.nodes node hm
    exact ⟨hnumber hx, hnumber hy, hnumber hwidth, hnumber hheight⟩
  · intro c hm
    obtain ⟨hx, hy, hwidth, hheight⟩ := h.containers c hm
    exact ⟨hnumber hx, hnumber hy, hnumber hwidth, hnumber hheight⟩

/-- A diagram that was laid out with exact numbers is saved when it is written as source and
compiled again, which is possible exactly if its links join nodes of the diagram. -/
theorem compile_toSource_position (plan : Plan ℝ) (a : Prompt.Analysis ℝ) (h : Legible d)
    (hs : StorableBoxes (d.position plan a)) (title : String) :
    (∀ d', Source.compile title (toSource (d.position plan a)) = .ok d' →
      Saved (d.position plan a) d') ∧
      ((∃ d' : Diagram ℝ, Source.compile title (toSource (d.position plan a)) = .ok d') ↔
        ∀ link ∈ d.links, link.source ∈ d.nodes.map (·.id) ∧ link.target ∈ d.nodes.map (·.id)) := by
  have hrange (x : ℝ) : Scan.inRange (Scalar.nearest x) = true := inRange_saturated (roundAway x)
  have hlegible := h.position plan a
  have hframed : Scene.Framed ⟨(d.position plan a).nodes, (d.position plan a).containerList⟩ := by
    rw [Diagram.containerList_position]
    exact framed_toOrigin_fit _
  constructor
  · intro d' hc
    obtain ⟨hnodes, hcontainers⟩ := hlegible.parts_of_compile hrange hc
    exact saved_of_framed hlegible hframed hs hnodes hcontainers
  · rw [hlegible.exists_compile_iff hrange, nodeIds_position]
    rfl

/-- Two containers that list one node. One of them lists a node too that the diagram does not have,
and the other is named by a node that it does not list. -/
noncomputable def loft : Diagram ℝ :=
  { title := "Loft"
    nodes :=
      [{ Node.fresh "desk" "Desk" .user with x := -7.5, width := 120.5, height := 100.25 },
       { Node.fresh "shelf" "Shelf" .storage with y := 1 / 3, owner := some "upper" },
       Node.fresh "door" "" .server]
    links := [{ id := "walk", source := "door", target := "desk", label := some "opens" }]
    containers := some
      [{ Container.fresh "lower" "Lower" .group with children := ["desk", "lamp"] },
       { Container.fresh "upper" "Upper" .vpc with x := 2.5, children := ["desk"] }] }

theorem legible_loft : Legible loft := by
  constructor
  · show ["desk", "shelf", "door"].Nodup
    decide
  · show ["lower", "upper"].Nodup
    decide
  · simp [loft, IsId, Node.fresh]
    decide
  · simp [loft, IsId, Container.fresh, Diagram.containerList]
    decide
  · simp [loft, IsId]
    decide
  · simp [loft]
  · simp [loft, Diagram.containerList, Container.fresh]
  · decide

theorem small_loft : Small 130 ⟨loft.nodes, loft.containerList⟩ := by
  constructor
  · decide
  · decide
  · simp [loft, few, Diagram.containerList, Container.fresh]
  · intro node hm
    simp only [loft, List.mem_cons, List.not_mem_nil, or_false] at hm
    rcases hm with rfl | rfl | rfl <;> constructor <;>
      norm_num [Node.fresh, Node.defaultWidth, Node.defaultHeight]

theorem boxed_loft : ∀ c ∈ loft.containerList, Boxed 61000 c := by
  intro c hm
  simp only [loft, Diagram.containerList, Option.getD_some, List.mem_cons, List.not_mem_nil,
    or_false] at hm
  rcases hm with rfl | rfl <;> constructor <;> norm_num [Container.fresh]

/-- The lamp is no node of the diagram. Its container is saved without it. -/
theorem compile_toSource_position_loft :
    let a : Prompt.Analysis ℝ := Prompt.analyze "A loft with a desk"
    let plan := choosePlan a
    Legible loft ∧ StorableBoxes (loft.position plan a) ∧
      ∃ d' : Diagram ℝ, Source.compile "Again" (toSource (loft.position plan a)) = .ok d' ∧
        Saved (loft.position plan a) d' := by
  intro a plan
  have hbounded := bounded_of_small small_loft (by norm_num) boxed_loft (modest_choosePlan a) a
  have hstorable := hbounded.storable (by norm_num)
  obtain ⟨hsaved, hcompiles⟩ := compile_toSource_position plan a legible_loft hstorable "Again"
  obtain ⟨d', hcompile⟩ := hcompiles.mpr (by simp [loft, Node.fresh])
  exact ⟨legible_loft, hstorable, d', hcompile, hsaved d' hcompile⟩

end Exact

end ArchDiagram
