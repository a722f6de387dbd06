import ArchDiagram.Generate
import ArchDiagram.Proofs.Layout.Unmoved
import ArchDiagram.Proofs.Source.Plain

namespace ArchDiagram

variable {α : Type} [Scalar α]

def Node.unplaced (node : Node α) : Node α := { node with x := 0.0, y := 0.0 }

def Container.unboxed (c : Container α) : Container α :=
  { c with x := 0.0, y := 0.0, width := 0.0, height := 0.0 }

theorem Node.same_of_unplaced {a b : Node α} (h : a.unplaced = b.unplaced) :
    a.id = b.id ∧ a.label = b.label ∧ a.style = b.style ∧ a.owner = b.owner := by
  simp only [unplaced, Node.mk.injEq] at h
  exact ⟨h.1, h.2.1, h.2.2.2.2.2.2.2.1, h.2.2.2.2.2.2.2.2⟩

theorem Container.same_of_unboxed {a b : Container α} (h : a.unboxed = b.unboxed) :
    a.id = b.id ∧ a.label = b.label ∧ a.children = b.children := by
  simp only [unboxed, Container.mk.injEq] at h
  exact ⟨h.1, h.2.1, h.2.2.2.2.2.2.2⟩

omit [Scalar α] in
theorem Link.same_of_bareLink {a b : Link} (h : Source.bareLink a = Source.bareLink b) :
    a.source = b.source ∧ a.target = b.target ∧ a.label = b.label := by
  simp only [Source.bareLink, Link.mk.injEq] at h
  exact ⟨h.2.1, h.2.2.1, h.2.2.2.1⟩

namespace Diagram

/-- Two diagrams differ in the places of nodes, in the boxes of containers and in the looks of
links. -/
structure Redrawn (d d' : Diagram α) : Prop where
  title : d'.title = d.title
  nodes : d'.nodes.map Node.unplaced = d.nodes.map Node.unplaced
  containers : d'.containers.map (List.map Container.unboxed) =
    d.containers.map (List.map Container.unboxed)
  links : d'.links.map Source.bareLink = d.links.map Source.bareLink

section Views

variable {β γ δ : Type} {xs ys : List β} {f : β → γ}

theorem exists_of_map_eq (he : ys.map f = xs.map f) {y : β} (hy : y ∈ ys) :
    ∃ x ∈ xs, f x = f y := by
  have hm := List.mem_map_of_mem (f := f) hy
  rw [he] at hm
  exact List.mem_map.mp hm

/-- What can be seen in a view is the same where the view is. -/
theorem map_eq_of_view (he : ys.map f = xs.map f) {g : β → δ} {h : γ → δ}
    (hg : ∀ x, h (f x) = g x) :
    ys.map g = xs.map g := by
  have hview (zs : List β) : zs.map g = (zs.map f).map h := by
    rw [List.map_map]
    exact List.map_congr_left fun z _ => (hg z).symm
  rw [hview, hview, he]

end Views

namespace Redrawn

variable {d d' d'' : Diagram α}

theorem refl (d : Diagram α) : Redrawn d d := ⟨rfl, rfl, rfl, rfl⟩

theorem trans (h : Redrawn d d') (h' : Redrawn d' d'') : Redrawn d d'' :=
  ⟨h'.title.trans h.title, h'.nodes.trans h.nodes, h'.containers.trans h.containers,
    h'.links.trans h.links⟩

theorem containerList (h : Redrawn d d') :
    d'.containerList.map Container.unboxed = d.containerList.map Container.unboxed := by
  have hget (o : Option (List (Container α))) :
      (o.getD []).map Container.unboxed = (o.map (List.map Container.unboxed)).getD [] := by
    cases o <;> rfl
  rw [Diagram.containerList, Diagram.containerList, hget, hget, h.containers]

theorem nodeIds (h : Redrawn d d') : d'.nodeIds = d.nodeIds :=
  map_eq_of_view h.nodes (g := fun node => node.id) (h := fun node => node.id) fun _ => rfl

theorem wellFormed (h : Redrawn d d') (hd : d.WellFormed) : d'.WellFormed := by
  refine ⟨?_, ?_, ?_, ?_, ?_, ?_, ?_⟩
  · rw [h.nodeIds]
    exact hd.nodeIds
  · rw [map_eq_of_view h.containerList (g := fun c => c.id) (h := fun c => c.id) fun _ => rfl]
    exact hd.containerIds
  · intro link hm
    obtain ⟨before, hb, he⟩ := exists_of_map_eq h.links hm
    obtain ⟨hsource, htarget, -⟩ := Link.same_of_bareLink he
    rw [h.nodeIds, ← hsource, ← htarget]
    exact hd.linkEnds before hb
  · intro node hm id
    obtain ⟨before, hb, he⟩ := exists_of_map_eq h.nodes hm
    obtain ⟨hid, -, -, howner⟩ := Node.same_of_unplaced he
    rw [← howner, ← hid, hd.owner_iff before hb]
    constructor
    · intro hl
      obtain ⟨c, hc, rfl, hchild⟩ := hl
      obtain ⟨c', hc', he⟩ := exists_of_map_eq h.containerList.symm hc
      obtain ⟨hcid, -, hchildren⟩ := Container.same_of_unboxed he
      exact ⟨c', hc', hcid, hchildren ▸ hchild⟩
    · intro hl
      obtain ⟨c, hc, rfl, hchild⟩ := hl
      obtain ⟨c', hc', he⟩ := exists_of_map_eq h.containerList hc
      obtain ⟨hcid, -, hchildren⟩ := Container.same_of_unboxed he
      exact ⟨c', hc', hcid, hchildren ▸ hchild⟩
  · rw [List.flatMap_def,
      map_eq_of_view h.containerList (g := fun c => c.children) (h := fun c => c.children) fun _ =>
        rfl,
      ← List.flatMap_def]
    exact hd.once
  · intro c hm
    obtain ⟨before, hb, he⟩ := exists_of_map_eq h.containerList hm
    obtain ⟨-, -, hchildren⟩ := Container.same_of_unboxed he
    rw [h.nodeIds, ← hchildren]
    exact hd.inOrder before hb
  · intro hnone
    have hbefore := h.containers
    rw [hnone] at hbefore
    obtain ⟨containers, hc, he⟩ := Option.map_eq_some_iff.mp hbefore.symm
    rw [List.map_eq_nil_iff.mp he] at hc
    exact hd.listed hc

theorem plain (h : Redrawn d d') (hd : Source.Plain d) : Source.Plain d' := by
  refine ⟨?_, ?_, ?_, ?_⟩
  · intro node hm
    obtain ⟨before, hb, he⟩ := exists_of_map_eq h.nodes hm
    obtain ⟨hid, hlabel, hstyle, -⟩ := Node.same_of_unplaced he
    rw [← hid, ← hlabel, ← hstyle]
    exact hd.nodes before hb
  · intro c hm
    obtain ⟨before, hb, he⟩ := exists_of_map_eq h.containerList hm
    obtain ⟨hid, hlabel, -⟩ := Container.same_of_unboxed he
    rw [← hid, ← hlabel]
    exact hd.containers before hb
  · intro link hm
    obtain ⟨before, hb, he⟩ := exists_of_map_eq h.links hm
    obtain ⟨-, -, hlabel⟩ := Link.same_of_bareLink he
    rw [← hlabel]
    exact hd.links before hb
  · rw [h.title]
    exact hd.title

theorem linksNumbered (h : Redrawn d d') (hd : Source.LinksNumbered d) :
    Source.LinksNumbered d' := by
  have hids : d'.links.map (·.id) = d.links.map (·.id) :=
    map_eq_of_view h.links (g := fun link => link.id) (h := fun link => link.id) fun _ => rfl
  have hlength : d'.links.length = d.links.length := by
    simpa using congrArg List.length hids
  rw [Source.LinksNumbered, hids, hlength]
  exact hd

end Redrawn

open Layout in
theorem containerList_position (d : Diagram α) (plan : Plan α) (a : Prompt.Analysis α) :
    (d.position plan a).containerList =
      (Scene.position plan a ⟨d.nodes, d.containerList⟩).containers := by
  have hboxless : Boxless fun c : Container α => c.id := fun _ _ _ _ _ => rfl
  have hids := map_view_containers_position hboxless ⟨d.nodes, d.containerList⟩ plan a
  rw [position, containerList]
  cases hc : d.containers with
  | none =>
    rw [containerList, hc, Option.getD_none, List.map_nil, List.map_eq_nil_iff] at hids
    rw [containerList, hc, Option.getD_none, hids]
    rfl
  | some containers => rfl

open Layout in
/-- A layout leaves a well-formed diagram as it is, but for places and boxes: a node is seated in
the container that it names anyway. -/
theorem redrawn_position {d : Diagram α} (h : d.WellFormed) (plan : Plan α)
    (a : Prompt.Analysis α) :
    Redrawn d (d.position plan a) := by
  have hseat : Seatless Node.unplaced ⟨d.nodes, d.containerList⟩ := by
    intro c hc node hm hlisted x y
    have howner := (h.owner_iff node hm c.id).mpr ⟨c, hc, rfl, hlisted⟩
    rw [Node.unplaced, Node.unplaced, ← howner]
  refine ⟨rfl, map_view_position (fun _ _ _ => rfl) hseat plan a, ?_, rfl⟩
  have hboxless : Boxless (Container.unboxed : Container α → Container α) := fun _ _ _ _ _ => rfl
  have hboxes := map_view_containers_position hboxless ⟨d.nodes, d.containerList⟩ plan a
  have hlist {containers : List (Container α)} (hc : d.containers = some containers) :
      d.containerList = containers := by rw [containerList, hc, Option.getD_some]
  rw [position]
  cases hc : d.containers with
  | none => rfl
  | some containers => exact congrArg some (hboxes.trans (congrArg _ (hlist hc)))

theorem redrawn_paintWith (d : Diagram α) (palette? : Option Palette) :
    Redrawn d (d.paintWith palette?) := by
  cases palette? with
  | none => exact Redrawn.refl d
  | some palette =>
    refine ⟨rfl, rfl, rfl, ?_⟩
    change (d.links.map (Link.painted (Coloring.assignAround palette d.nodes d.links))).map
      Source.bareLink = _
    rw [List.map_map]
    apply List.map_congr_left
    intro link _
    rw [Function.comp_apply, Link.painted]
    cases (Coloring.assignAround palette d.nodes d.links).lookup link.id <;> rfl

end Diagram

end ArchDiagram
