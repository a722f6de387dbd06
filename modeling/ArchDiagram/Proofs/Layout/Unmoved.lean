import Mathlib.Data.List.Basic
import Mathlib.Tactic.SplitIfs
import ArchDiagram.Layout.Position

namespace ArchDiagram.Layout

variable {α β : Type} [Scalar α]

/-- A view of a node does not depend on where the node is. -/
def Placeless (view : Node α → β) : Prop := ∀ node x y, view { node with x, y } = view node

/-- A view of a container does not depend on its box. -/
def Boxless (view : Container α → β) : Prop :=
  ∀ c x y width height, view { c with x, y, width, height } = view c

section Nodes

variable {view : Node α → β} (hv : Placeless view)
include hv

theorem view_push? {threshold : α} {a b : Node α} {moved : Node α × Node α}
    (h : push? threshold a b = some moved) : view moved.1 = view a ∧ view moved.2 = view b := by
  rw [push?] at h
  split_ifs at h
  obtain rfl := Option.some.inj h
  exact ⟨hv a _ _, hv b _ _⟩

theorem view_against (threshold : α) (a : Node α) (nodes : List (Node α)) :
    view (against threshold a nodes).1 = view a ∧
      (against threshold a nodes).2.1.map view = nodes.map view := by
  induction nodes generalizing a with
  | nil => exact ⟨rfl, rfl⟩
  | cons b rest ih =>
    rw [against]
    cases hp : push? threshold a b with
    | none =>
      obtain ⟨hfirst, hrest⟩ := ih a
      exact ⟨hfirst, congrArg (view b :: ·) hrest⟩
    | some moved =>
      obtain ⟨ha, hb⟩ := view_push? hv hp
      obtain ⟨hfirst, hrest⟩ := ih moved.1
      exact ⟨hfirst.trans ha, congrArg₂ List.cons hb hrest⟩

theorem map_view_sweep (threshold : α) (nodes : List (Node α)) :
    (sweep threshold nodes).1.map view = nodes.map view := by
  fun_induction sweep threshold nodes with
  | case1 => rfl
  | case2 a rest first others ih =>
    obtain ⟨hfirst, hrest⟩ := view_against hv threshold a rest
    rw [List.map_cons, List.map_cons, ih, hfirst, hrest]

theorem map_view_circle (plan : Plan α) (scene : Scene α) :
    (scene.circle plan).nodes.map view = scene.nodes.map view := by
  rw [Scene.circle, List.mapIdx_eq_zipIdx_map, List.map_map]
  conv_rhs => rw [← List.zipIdx_map_fst 0 scene.nodes, List.map_map]
  exact List.map_congr_left fun item _ => hv item.1 _ _

theorem map_view_moved (scene : Scene α) (dx dy : α) :
    (scene.moved dx dy).nodes.map view = scene.nodes.map view := by
  rw [Scene.moved, List.map_map]
  exact List.map_congr_left fun node _ => hv node _ _

theorem view_put (levels : Levels α) (plan : Plan α) (slot : Nat) (node : Node α) :
    view (levels.put plan slot node) = view node := by
  rw [Levels.put]
  split_ifs <;> exact hv node _ _

end Nodes

section Containers

theorem map_view_putAll {view : Container α → β} (hv : Boxless view) (shelves : Shelves α)
    (index : Nat) (containers : List (Container α)) :
    (shelves.putAll index containers).map view = containers.map view := by
  induction containers generalizing index with
  | nil => rfl
  | cons c rest ih =>
    rw [Shelves.putAll, List.map_cons, List.map_cons, ih, Shelves.put, hv]

theorem length_putAll (shelves : Shelves α) (index : Nat) (containers : List (Container α)) :
    (shelves.putAll index containers).length = containers.length := by
  induction containers generalizing index with
  | nil => rfl
  | cons c rest ih => rw [Shelves.putAll, List.length_cons, List.length_cons, ih]

theorem view_fitContainer {view : Container α → β} (hv : Boxless view) (nodes : List (Node α))
    (c : Container α) : view (fitContainer nodes c) = view c := by
  rw [fitContainer]
  cases boundingBox? (nodes.filter (isMember c)) with
  | none => rfl
  | some box => exact hv c _ _ _ _

theorem map_view_fit {view : Container α → β} (hv : Boxless view) (scene : Scene α) :
    scene.fit.containers.map view = scene.containers.map view := by
  rw [Scene.fit, List.map_map]
  exact List.map_congr_left fun c _ => view_fitContainer hv scene.nodes c

theorem map_view_containers_moved {view : Container α → β} (hv : Boxless view) (scene : Scene α)
    (dx dy : α) :
    (scene.moved dx dy).containers.map view = scene.containers.map view := by
  rw [Scene.moved, List.map_map]
  exact List.map_congr_left fun c _ => hv c _ _ _ _

omit [Scalar α] in
/-- A container claims only what it lists. -/
theorem claimed_subset {ids taken : List String} {containers : List (Container α)} {claim : Claim α}
    (h : claim ∈ List.zipWith Claim.mk containers (claims ids taken containers)) :
    claim.container ∈ containers ∧ claim.ids ⊆ claim.container.children := by
  induction containers generalizing taken with
  | nil => simp at h
  | cons c rest ih =>
    rw [claims, List.zipWith_cons_cons, List.mem_cons] at h
    rcases h with rfl | h
    · refine ⟨by simp, fun id hid => ?_⟩
      exact List.mem_eraseDups.mp (List.mem_of_mem_filter hid)
    · obtain ⟨hc, hids⟩ := ih h
      exact ⟨List.mem_cons_of_mem c hc, hids⟩

theorem seat?_eq_some {claimed : List (Claim α)} {node seated : Node α}
    (h : seat? claimed node = some seated) :
    ∃ claim ∈ claimed, node.id ∈ claim.ids ∧ ∃ slot, seated = claim.seat slot node := by
  obtain ⟨claim, hc, hs⟩ := List.exists_of_findSome?_eq_some h
  obtain ⟨slot, hslot, rfl⟩ := Option.map_eq_some_iff.mp hs
  refine ⟨claim, hc, ?_, slot, rfl⟩
  by_contra hnone
  rw [List.idxOf?_eq_none_iff.mpr hnone] at hslot
  contradiction

end Containers

/-- A view of the nodes does not see that a node is seated in a container that lists it. -/
def Seatless (view : Node α → β) (scene : Scene α) : Prop :=
  ∀ c ∈ scene.containers, ∀ node ∈ scene.nodes, node.id ∈ c.children →
    ∀ x y, view { node with x, y, owner := some c.id } = view node

section Drawing

variable {view : Node α → β}

theorem map_view_placeNodes {claimed : List (Claim α)} {put : Nat → Node α → Node α}
    (hput : ∀ slot node, view (put slot node) = view node) {nodes : List (Node α)}
    (hseat : ∀ claim ∈ claimed, ∀ node ∈ nodes, node.id ∈ claim.ids →
      ∀ slot, view (claim.seat slot node) = view node) (slot : Nat) :
    (placeNodes claimed put slot nodes).map view = nodes.map view := by
  induction nodes generalizing slot with
  | nil => rfl
  | cons node later ih =>
    have hlater := ih fun claim hc other ho => hseat claim hc other (by simp [ho])
    rw [placeNodes]
    split_ifs
    · rw [List.map_cons, List.map_cons, hput, hlater]
    · rw [List.map_cons, List.map_cons, hlater]
      congr 1
      cases hs : seat? claimed node with
      | none => rfl
      | some seated =>
        obtain ⟨claim, hc, hid, slot, rfl⟩ := seat?_eq_some hs
        exact hseat claim hc node (by simp) hid slot

theorem map_view_arrange (hv : Placeless view) {scene : Scene α} (hseat : Seatless view scene)
    (plan : Plan α) : (scene.arrange plan).nodes.map view = scene.nodes.map view := by
  rw [Scene.arrange]
  refine map_view_placeNodes (fun slot node => view_put hv _ plan slot node) ?_ 0
  intro claim hclaim node hn hid slot
  obtain ⟨hc, hids⟩ := claimed_subset hclaim
  have hboxless : Boxless fun c : Container α => (c.id, c.children) := fun _ _ _ _ _ => rfl
  have hmem := List.mem_map_of_mem (f := fun c : Container α => (c.id, c.children)) hc
  rw [map_view_putAll hboxless] at hmem
  obtain ⟨before, hb, he⟩ := List.mem_map.mp hmem
  obtain ⟨hid', hchildren⟩ := Prod.mk.inj he
  rw [Claim.seat, ← hid']
  exact hseat before hb node hn (hchildren ▸ hids hid) _ _

theorem map_view_place (hv : Placeless view) {scene : Scene α} (hseat : Seatless view scene)
    (shape : Shape) (plan : Plan α) :
    (scene.place shape plan).nodes.map view = scene.nodes.map view := by
  cases shape with
  | rows => exact map_view_arrange hv hseat plan
  | circle => exact map_view_circle hv plan scene

theorem map_view_position (hv : Placeless view) {scene : Scene α} (hseat : Seatless view scene)
    (plan : Plan α) (a : Prompt.Analysis α) :
    (scene.position plan a).nodes.map view = scene.nodes.map view := by
  rw [Scene.position, Scene.toOrigin, map_view_moved hv]
  change (spread plan.nodeSpacing (scene.place (plan.algorithm.shape a) plan).nodes).1.map view = _
  rw [spread, map_view_sweep hv, map_view_place hv hseat]

theorem map_view_containers_position {view : Container α → β} (hv : Boxless view) (scene : Scene α)
    (plan : Plan α) (a : Prompt.Analysis α) :
    (scene.position plan a).containers.map view = scene.containers.map view := by
  rw [Scene.position, Scene.toOrigin, map_view_containers_moved hv, map_view_fit hv]
  change (scene.place (plan.algorithm.shape a) plan).containers.map view = _
  cases plan.algorithm.shape a with
  | rows => exact map_view_putAll hv _ 0 scene.containers
  | circle => rfl

end Drawing

end ArchDiagram.Layout
