import Mathlib
import ArchDiagram.Proofs.Exact
import ArchDiagram.Proofs.Redrawn

namespace ArchDiagram.Layout

variable {α : Type} [Scalar α]

/-- A drawing without places and boxes. -/
def Scene.bare (scene : Scene α) : Scene α :=
  ⟨scene.nodes.map Node.unplaced, scene.containers.map Container.unboxed⟩

section Seats

variable {claimed : List (Claim α)} {put : Nat → Node α → Node α} {plan : Plan α}

theorem seat?_unplaced (claimed : List (Claim α)) (node : Node α) :
    seat? claimed node.unplaced = seat? claimed node := rfl

/-- Who is seated once is seated there again. -/
theorem seat?_seat (claimed : List (Claim α)) (claim : Claim α) (slot : Nat) (node : Node α) :
    seat? claimed (claim.seat slot node) = seat? claimed node := rfl

theorem put_unplaced (levels : Levels α) (plan : Plan α) (slot : Nat) (node : Node α) :
    levels.put plan slot node.unplaced = levels.put plan slot node := by
  rw [Levels.put, Levels.put]
  split_ifs <;> rfl

theorem put_put (levels : Levels α) (plan : Plan α) (slot : Nat) (node : Node α) :
    levels.put plan slot (levels.put plan slot node) = levels.put plan slot node := by
  have hbare : (levels.put plan slot node).unplaced = node.unplaced :=
    view_put (fun _ _ _ => rfl) levels plan slot node
  rw [← put_unplaced, hbare, put_unplaced]

theorem isSome_seat? (claimed : List (Claim α)) (node : Node α) :
    (seat? claimed node).isSome = claimed.any fun claim => (claim.ids.idxOf? node.id).isSome := by
  rw [Bool.eq_iff_iff, seat?, List.findSome?_isSome_iff, List.any_eq_true]
  simp only [Option.isSome_map]

/-- Whether a node goes to the grid is a matter of ids. -/
theorem isFree_congr {node other : Node α} {later later' : List (Node α)} (h : other.id = node.id)
    (hlater : later'.map (·.id) = later.map (·.id)) :
    isFree claimed other later' = isFree claimed node later := by
  have hany (nodes : List (Node α)) (id : String) :
      (nodes.any fun n => n.id == id) = (nodes.map (·.id)).any (· == id) := by
    rw [List.any_map]
    rfl
  rw [isFree, isFree, hany, hany, hlater, ← Option.not_isSome, ← Option.not_isSome, isSome_seat?,
    isSome_seat?, h]

theorem exists_seat? {node : Node α} {later : List (Node α)}
    (h : ¬isFree claimed node later = true) :
    ∃ seated, seat? claimed node = some seated := by
  rw [isFree, Bool.or_eq_true, not_or] at h
  exact Option.ne_none_iff_exists'.mp fun hnone => h.2 (by rw [hnone]; rfl)

theorem placeNodes_unplaced (hput : ∀ slot node, put slot (Node.unplaced node) = put slot node)
    (slot : Nat) (nodes : List (Node α)) :
    placeNodes claimed put slot (nodes.map Node.unplaced) = placeNodes claimed put slot nodes := by
  induction nodes generalizing slot with
  | nil => rfl
  | cons node later ih =>
    have hids : (later.map Node.unplaced).map (·.id) = later.map (·.id) := List.map_map
    have hfree : isFree claimed node.unplaced (later.map Node.unplaced) =
        isFree claimed node later :=
      isFree_congr rfl hids
    rw [List.map_cons, placeNodes, placeNodes, hfree]
    split_ifs with h
    · rw [hput, ih]
    · obtain ⟨seated, hs⟩ := exists_seat? h
      rw [seat?_unplaced, hs, ih]
      rfl

theorem placeNodes_placeNodes (hput : ∀ slot node, put slot (put slot node) = put slot node)
    (hid : ∀ slot node, (put slot node).id = node.id) (slot : Nat) (nodes : List (Node α)) :
    placeNodes claimed put slot (placeNodes claimed put slot nodes) =
      placeNodes claimed put slot nodes := by
  induction nodes generalizing slot with
  | nil => rfl
  | cons node later ih =>
    have hids (start : Nat) : (placeNodes claimed put start later).map (·.id) = later.map (·.id) :=
      map_view_placeNodes hid (fun _ _ _ _ _ _ => rfl) start
    rw [placeNodes]
    split_ifs with h
    · have hfree : isFree claimed (put slot node) (placeNodes claimed put (slot + 1) later) =
          isFree claimed node later := isFree_congr (hid slot node) (hids (slot + 1))
      rw [placeNodes, hfree, if_pos h, hput, ih]
    · obtain ⟨seated, hs⟩ := exists_seat? h
      obtain ⟨claim, -, -, index, rfl⟩ := seat?_eq_some hs
      have hfree : isFree claimed (claim.seat index node) (placeNodes claimed put slot later) =
          isFree claimed node later := isFree_congr rfl (hids slot)
      rw [hs, Option.getD_some, placeNodes, hfree, if_neg h, seat?_seat, hs, Option.getD_some, ih]

end Seats

section Rows

variable {plan : Plan α} {scene other : Scene α}

/-- The containers in their cells. -/
def Scene.shelved (plan : Plan α) (scene : Scene α) : List (Container α) :=
  (Shelves.ofContainers plan scene.containers).putAll 0 scene.containers

/-- The containers in their cells with the ids that they claim. -/
def Scene.claimed (plan : Plan α) (scene : Scene α) : List (Claim α) :=
  List.zipWith Claim.mk (scene.shelved plan)
    (claims (scene.nodes.map (·.id)) [] (scene.shelved plan))

/-- The cells for the nodes that no container claims. -/
def Scene.levels (plan : Plan α) (scene : Scene α) : Levels α :=
  let shelves := Shelves.ofContainers plan scene.containers
  let top :=
    if (scene.shelved plan).isEmpty then gridMargin else shelves.bottom (scene.shelved plan).length
  Levels.ofNodes plan gridMargin top (freeNodes (scene.claimed plan) scene.nodes)

theorem arrange_eq (plan : Plan α) (scene : Scene α) : scene.arrange plan =
    ⟨placeNodes (scene.claimed plan) ((scene.levels plan).put plan) 0 scene.nodes,
      scene.shelved plan⟩ := rfl

theorem putAll_unboxed (shelves : Shelves α) (index : Nat) (containers : List (Container α)) :
    shelves.putAll index (containers.map Container.unboxed) = shelves.putAll index containers := by
  induction containers generalizing index with
  | nil => rfl
  | cons c rest ih =>
    rw [List.map_cons, Shelves.putAll, Shelves.putAll, ih]
    rfl

theorem ofContainers_unboxed (plan : Plan α) (containers : List (Container α)) :
    Shelves.ofContainers plan (containers.map Container.unboxed) =
      Shelves.ofContainers plan containers := by
  simp only [Shelves.ofContainers, List.map_map, List.length_map]
  rfl

theorem ofContainers_congr {containers containers' : List (Container α)}
    (h : containers'.map Container.unboxed = containers.map Container.unboxed) :
    Shelves.ofContainers plan containers' = Shelves.ofContainers plan containers := by
  rw [← ofContainers_unboxed, h, ofContainers_unboxed]

theorem shelved_congr
    (h : other.containers.map Container.unboxed = scene.containers.map Container.unboxed) :
    other.shelved plan = scene.shelved plan := by
  rw [Scene.shelved, Scene.shelved, ofContainers_congr h, ← putAll_unboxed, h, putAll_unboxed]

theorem claimed_congr (hids : other.nodes.map (·.id) = scene.nodes.map (·.id))
    (h : other.containers.map Container.unboxed = scene.containers.map Container.unboxed) :
    other.claimed plan = scene.claimed plan := by
  rw [Scene.claimed, Scene.claimed, shelved_congr h, hids]

/-- What the grid needs to know about a node. -/
def footprint (node : Node α) : String × α × α := (node.id, node.width, node.height)

theorem freeNodes_congr {claimed : List (Claim α)} {nodes others : List (Node α)}
    (h : others.map footprint = nodes.map footprint) :
    (freeNodes claimed others).map footprint = (freeNodes claimed nodes).map footprint := by
  induction nodes generalizing others with
  | nil =>
    obtain rfl := List.map_eq_nil_iff.mp h
    rfl
  | cons node later ih =>
    obtain ⟨other, later', rfl, hfirst, hlater⟩ := List.map_eq_cons_iff.mp h
    have hid : other.id = node.id := congrArg (·.1) hfirst
    have hids : later'.map (·.id) = later.map (·.id) :=
      Diagram.map_eq_of_view hlater (h := fun view => view.1) fun _ => rfl
    rw [freeNodes, freeNodes, isFree_congr hid hids]
    split_ifs
    · rw [List.map_cons, List.map_cons, hfirst, ih hlater]
    · exact ih hlater

theorem ofNodes_congr {x y : α} {nodes others : List (Node α)}
    (h : others.map footprint = nodes.map footprint) :
    Levels.ofNodes plan x y others = Levels.ofNodes plan x y nodes := by
  have hlength : others.length = nodes.length := by simpa using congrArg List.length h
  have hwidth : others.map (·.width) = nodes.map (·.width) :=
    Diagram.map_eq_of_view h (h := fun view => view.2.1) fun _ => rfl
  have hheight : others.map (·.height) = nodes.map (·.height) :=
    Diagram.map_eq_of_view h (h := fun view => view.2.2) fun _ => rfl
  rw [Levels.ofNodes, Levels.ofNodes, hlength, hwidth, hheight]

theorem levels_congr (hnodes : other.nodes.map footprint = scene.nodes.map footprint)
    (h : other.containers.map Container.unboxed = scene.containers.map Container.unboxed) :
    other.levels plan = scene.levels plan := by
  have hids : other.nodes.map (·.id) = scene.nodes.map (·.id) :=
    Diagram.map_eq_of_view hnodes (h := fun view => view.1) fun _ => rfl
  rw [Scene.levels, Scene.levels, ofContainers_congr h, shelved_congr h, claimed_congr hids h,
    ofNodes_congr (freeNodes_congr hnodes)]

/-- Rows and columns do not depend on earlier places and boxes. -/
theorem arrange_bare (plan : Plan α) (scene : Scene α) :
    scene.bare.arrange plan = scene.arrange plan := by
  have hcontainers : scene.bare.containers.map Container.unboxed =
      scene.containers.map Container.unboxed :=
    List.map_map
  have hids : scene.bare.nodes.map (·.id) = scene.nodes.map (·.id) := List.map_map
  have hfootprints : scene.bare.nodes.map footprint = scene.nodes.map footprint := List.map_map
  rw [arrange_eq, arrange_eq, shelved_congr hcontainers, claimed_congr hids hcontainers,
    levels_congr hfootprints hcontainers]
  congr 1
  exact placeNodes_unplaced (put_unplaced _ plan) 0 scene.nodes

theorem arrange_arrange (plan : Plan α) (scene : Scene α) :
    (scene.arrange plan).arrange plan = scene.arrange plan := by
  have hcontainers : (scene.arrange plan).containers.map Container.unboxed =
      scene.containers.map Container.unboxed := map_view_putAll (fun _ _ _ _ _ => rfl) _ 0 _
  have hids : (scene.arrange plan).nodes.map (·.id) = scene.nodes.map (·.id) :=
    map_view_arrange (fun _ _ _ => rfl) (fun _ _ _ _ _ _ _ => rfl) plan
  have hfootprints : (scene.arrange plan).nodes.map footprint = scene.nodes.map footprint :=
    map_view_arrange (fun _ _ _ => rfl) (fun _ _ _ _ _ _ _ => rfl) plan
  rw [arrange_eq, shelved_congr hcontainers, claimed_congr hids hcontainers,
    levels_congr hfootprints hcontainers, arrange_eq]
  congr 1
  exact placeNodes_placeNodes (put_put _ plan)
    (fun slot node => view_put (fun _ _ _ => rfl) _ plan slot node) 0 _

end Rows

section Circles

variable {plan : Plan α} {scene : Scene α}

theorem circle_bare (plan : Plan α) (scene : Scene α) :
    scene.bare.circle plan =
      ⟨(scene.circle plan).nodes, scene.containers.map Container.unboxed⟩ := by
  have hnodes (count : Nat) : (scene.nodes.map Node.unplaced).mapIdx (onCircle plan count) =
      scene.nodes.mapIdx (onCircle plan count) := by
    rw [List.mapIdx_eq_zipIdx_map, List.mapIdx_eq_zipIdx_map, List.zipIdx_map, List.map_map]
    rfl
  rw [Scene.circle, Scene.circle, Scene.bare]
  dsimp only
  rw [List.length_map, hnodes]

theorem fitContainer_unboxed {nodes : List (Node α)} {c : Container α}
    (h : ∃ node ∈ nodes, isMember c node = true) :
    fitContainer nodes c.unboxed = fitContainer nodes c := by
  obtain ⟨node, hn, hc⟩ := h
  obtain ⟨first, rest, he⟩ := List.exists_cons_of_ne_nil
    (List.ne_nil_of_mem (List.mem_filter.mpr ⟨hn, hc⟩))
  have hsame : isMember c.unboxed = isMember c := rfl
  rw [fitContainer, fitContainer, hsame, he]
  rfl

def Scene.Inhabited (scene : Scene α) : Prop :=
  ∀ c ∈ scene.containers, ∃ node ∈ scene.nodes, isMember c node = true

/-- Who is a member of which container can be seen without places and boxes. -/
theorem inhabited_bare_iff (scene : Scene α) : scene.bare.Inhabited ↔ scene.Inhabited := by
  simp only [Scene.Inhabited, Scene.bare, List.mem_map, exists_exists_and_eq_and,
    forall_exists_index, and_imp, forall_apply_eq_imp_iff₂]
  exact Iff.rfl

/-- Boxes around members do not depend on the boxes before. -/
theorem fit_unboxed (h : scene.Inhabited) :
    Scene.fit ⟨scene.nodes, scene.containers.map Container.unboxed⟩ = scene.fit := by
  rw [Scene.fit, Scene.fit, List.map_map]
  congr 1
  exact List.map_congr_left fun c hc => fitContainer_unboxed (h c hc)

/-- A circle leaves owners and boxes alone, so that only places change. -/
theorem bare_circle (plan : Plan α) (scene : Scene α) : (scene.circle plan).bare = scene.bare := by
  rw [Scene.bare, map_view_circle fun _ _ _ => rfl]
  rfl

end Circles

section Positions

variable {plan : Plan α} {scene other : Scene α} {a : Prompt.Analysis α}

/-- A drawing whose nodes have been pushed apart. -/
def Scene.apart (plan : Plan α) (scene : Scene α) : Scene α :=
  { scene with nodes := (Layout.spread plan.nodeSpacing scene.nodes).1 }

theorem position_eq (plan : Plan α) (a : Prompt.Analysis α) (scene : Scene α) :
    scene.position plan a = ((scene.place (plan.algorithm.shape a) plan).apart plan).fit.toOrigin :=
  rfl

/-- Pushing nodes apart only changes places. -/
theorem bare_apart (plan : Plan α) (scene : Scene α) : (scene.apart plan).bare = scene.bare := by
  have hnodes : (scene.apart plan).nodes.map Node.unplaced = scene.nodes.map Node.unplaced :=
    map_view_sweep (fun _ _ _ => rfl) _ _
  rw [Scene.bare, hnodes]
  rfl

theorem bare_position (plan : Plan α) (a : Prompt.Analysis α) (scene : Scene α) :
    (scene.position plan a).bare = (scene.place (plan.algorithm.shape a) plan).bare := by
  have hnodes : (scene.position plan a).nodes.map Node.unplaced =
      (scene.place (plan.algorithm.shape a) plan).nodes.map Node.unplaced :=
    (map_view_moved (fun _ _ _ => rfl) _ _ _).trans (map_view_sweep (fun _ _ _ => rfl) _ _)
  have hcontainers : (scene.position plan a).containers.map Container.unboxed =
      (scene.place (plan.algorithm.shape a) plan).containers.map Container.unboxed :=
    (map_view_containers_moved (fun _ _ _ _ _ => rfl) _ _ _).trans
      (map_view_fit (fun _ _ _ _ _ => rfl) _)
  rw [Scene.bare, hnodes, hcontainers]
  rfl

theorem position_bare (h : plan.algorithm.shape a = .circle → scene.Inhabited) :
    scene.bare.position plan a = scene.position plan a := by
  rw [position_eq, position_eq]
  cases hshape : plan.algorithm.shape a with
  | rows => rw [Scene.place, Scene.place, arrange_bare]
  | circle =>
    have hinhabited : ((scene.circle plan).apart plan).Inhabited := by
      rw [← inhabited_bare_iff, bare_apart, bare_circle, inhabited_bare_iff]
      exact h hshape
    rw [Scene.place, Scene.place, circle_bare]
    exact congrArg Scene.toOrigin (fit_unboxed hinhabited)

theorem arrange_position (hshape : plan.algorithm.shape a = .rows) :
    (scene.position plan a).arrange plan = scene.arrange plan := by
  have hbare : (scene.position plan a).bare = (scene.arrange plan).bare := by
    rw [bare_position, hshape]
    rfl
  rw [← arrange_bare, hbare, arrange_bare, arrange_arrange]

/-- A layout does not depend on earlier places and boxes, and a second one changes nothing. If the
nodes are put on a circle, this holds as far as every container has a member. -/
theorem position_fresh
    (hnodes : other.nodes.map Node.unplaced = scene.nodes.map Node.unplaced)
    (hcontainers : other.containers.map Container.unboxed = scene.containers.map Container.unboxed)
    (h : plan.algorithm.shape a = .circle → scene.Inhabited) :
    other.position plan a = scene.position plan a ∧
      (scene.position plan a).position plan a = scene.position plan a := by
  have hsame {first second : Scene α} (hbare : first.bare = second.bare)
      (h : plan.algorithm.shape a = .circle → second.Inhabited) :
      first.position plan a = second.position plan a := by
    have h' : plan.algorithm.shape a = .circle → first.Inhabited := fun hshape => by
      rw [← inhabited_bare_iff, hbare, inhabited_bare_iff]
      exact h hshape
    rw [← position_bare h', hbare, position_bare h]
  refine ⟨hsame (by rw [Scene.bare, hnodes, hcontainers, Scene.bare]) h, ?_⟩
  cases hshape : plan.algorithm.shape a with
  | rows =>
    rw [position_eq plan a (scene.position plan a), hshape, Scene.place, arrange_position hshape,
      position_eq, hshape, Scene.place]
  | circle =>
    refine hsame ?_ h
    rw [bare_position, hshape]
    exact bare_circle plan scene

/-- A container with one member and a node of its own beside it. -/
def cellar (x y : α) : Scene α :=
  { nodes :=
      [{ Node.fresh "wine" "Wine" .storage with x, y },
       { Node.fresh "stairs" "Stairs" .server with x }]
    containers :=
      [{ Container.fresh "cellar" "Cellar" .group with y, width := x, children := ["wine"] }] }

theorem position_fresh_cellar :
    let plan : Plan ℝ := { Plan.standard with algorithm := .organic }
    let a : Prompt.Analysis ℝ := .empty
    ((cellar 3 5).nodes.map Node.unplaced = (cellar (0 : ℝ) 0).nodes.map Node.unplaced ∧
      (cellar 3 5).containers.map Container.unboxed =
        (cellar (0 : ℝ) 0).containers.map Container.unboxed ∧
      plan.algorithm.shape a = .circle ∧ (cellar (0 : ℝ) 0).Inhabited) ∧
    (cellar 3 5).position plan a = (cellar 0 0).position plan a ∧
      ((cellar 0 0).position plan a).position plan a = (cellar 0 0).position plan a := by
  intro plan a
  have hinhabited : (cellar (0 : ℝ) 0).Inhabited := by
    intro c hc
    obtain rfl := List.mem_singleton.mp hc
    exact ⟨_, List.mem_cons_self, rfl⟩
  exact ⟨⟨rfl, rfl, rfl, hinhabited⟩, position_fresh rfl rfl fun _ => hinhabited⟩

end Positions

end ArchDiagram.Layout
