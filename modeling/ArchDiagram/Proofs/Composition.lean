import Mathlib
import ArchDiagram.Proofs.Generate

namespace ArchDiagram

open Layout Prompt

variable {α : Type} [Scalar α]

/-- Each node is listed once, by the container of its tier, which it names as its own. -/
structure Tiered (nodes : List (Node α)) (containers : List (Container α)) : Prop where
  inhabited : ∀ c ∈ containers, c.children ≠ []
  distinct : (containers.map (·.id)).Nodup
  once : ∀ node ∈ nodes, (containers.flatMap (·.children)).count node.id = 1
  seated : ∀ node ∈ nodes, ∃ c ∈ containers,
    c.id = tierId (Tier.ofIcon node.icon) ∧ node.id ∈ c.children ∧ node.owner = some c.id

/-- A diagram of the components and relationships of a description. -/
structure Shows (a : Analysis α) (d : Diagram α) : Prop where
  few : d.nodes.length ≤ 20
  nodes : d.nodes.map (fun node => (node.id, node.label, node.icon)) =
    a.entities.map fun e => (e.id, e.name, e.icon)
  sound : d.violations = []
  links : d.links.map (fun link => (link.id, link.source, link.target)) =
    (a.relationships.zipIdx 1).map fun item =>
      ("link-" ++ toString item.2, item.1.source, item.1.target)
  apart : ∀ link ∈ d.links, link.source ≠ link.target
  tiers : ∀ containers, d.containers = some containers → Tiered d.nodes containers

section Redrawing

open Diagram

variable {nodes nodes' : List (Node α)} {containers containers' : List (Container α)}

theorem Tiered.redrawn (h : Tiered nodes containers)
    (hnodes : nodes'.map Node.unplaced = nodes.map Node.unplaced)
    (hcontainers : containers'.map Container.unboxed = containers.map Container.unboxed) :
    Tiered nodes' containers' := by
  have hlisted : containers'.flatMap (·.children) = containers.flatMap (·.children) := by
    rw [List.flatMap_def, List.flatMap_def]
    exact congrArg List.flatten
      (map_eq_of_view hcontainers
        (g := fun c => c.children) (h := fun c => c.children) fun _ => rfl)
  constructor
  · intro c hc
    obtain ⟨before, hb, he⟩ := exists_of_map_eq hcontainers hc
    obtain ⟨-, -, hchildren⟩ := Container.same_of_unboxed he
    rw [← hchildren]
    exact h.inhabited before hb
  · rw [map_eq_of_view hcontainers (g := fun c => c.id) (h := fun c => c.id) fun _ => rfl]
    exact h.distinct
  · intro node hm
    obtain ⟨before, hb, he⟩ := exists_of_map_eq hnodes hm
    obtain ⟨hid, -⟩ := Node.same_of_unplaced he
    rw [hlisted, ← hid]
    exact h.once before hb
  · intro node hm
    obtain ⟨before, hb, he⟩ := exists_of_map_eq hnodes hm
    obtain ⟨hid, -, -, howner⟩ := Node.same_of_unplaced he
    have hicon : before.icon = node.icon := congrArg (·.icon) he
    obtain ⟨c, hc, htier, hchild, hown⟩ := h.seated before hb
    obtain ⟨c', hc', he'⟩ := exists_of_map_eq hcontainers.symm hc
    obtain ⟨hcid, -, hchildren⟩ := Container.same_of_unboxed he'
    rw [hid, ← hchildren] at hchild
    rw [← hcid, hicon] at htier
    rw [howner, ← hcid] at hown
    exact ⟨c', hc', htier, hchild, hown⟩

/-- Places, boxes and looks are not part of what a diagram shows. -/
theorem Shows.redrawn {a : Analysis α} {d d' : Diagram α} (h : Shows a d) (hw : d.WellFormed)
    (hd : d.Redrawn d') : Shows a d' := by
  refine ⟨?_, ?_, (hd.wellFormed hw).violations_eq_nil, ?_, ?_, ?_⟩
  · have hlength := congrArg List.length hd.nodes
    rw [List.length_map, List.length_map] at hlength
    rw [hlength]
    exact h.few
  · rw [← h.nodes]
    exact map_eq_of_view hd.nodes (h := fun node => (node.id, node.label, node.icon)) fun _ => rfl
  · rw [← h.links]
    exact map_eq_of_view hd.links
      (h := fun link => (link.id, link.source, link.target)) fun _ => rfl
  · intro link hm
    obtain ⟨before, hb, he⟩ := exists_of_map_eq hd.links hm
    obtain ⟨hsource, htarget, -⟩ := Link.same_of_bareLink he
    rw [← hsource, ← htarget]
    exact h.apart before hb
  · intro containers' hc'
    have hmap := hd.containers
    rw [hc'] at hmap
    obtain ⟨containers, hc, he⟩ := Option.map_eq_some_iff.mp hmap.symm
    exact (h.tiers containers hc).redrawn hd.nodes he.symm

end Redrawing

section Draft

variable {limit : ℕ} {a : Analysis α}

theorem tiered_draft (h : a.Sound limit) (hgrouped : a.isGrouped = true) :
    Tiered a.draft.nodes a.tierContainers := by
  have hseat : ∀ node ∈ a.draft.nodes, ∃ c ∈ a.tierContainers,
      c.id = tierId (Tier.ofIcon node.icon) ∧ node.id ∈ c.children ∧ node.owner = some c.id := by
    intro node hm
    obtain ⟨e, he, rfl⟩ := Analysis.mem_nodes_draft.mp hm
    rw [hgrouped]
    exact ⟨a.tierContainer (Analysis.tierOf e),
      Analysis.mem_tierContainers_iff.mpr ⟨_, rfl, e, he, rfl⟩,
      rfl, (Analysis.mem_children_iff h he).mpr rfl, rfl⟩
  refine ⟨?_, Analysis.nodup_tierContainers a, ?_, hseat⟩
  · intro c hc
    obtain ⟨tier, rfl, e, he, ht⟩ := Analysis.mem_tierContainers_iff.mp hc
    exact List.ne_nil_of_mem ((Analysis.mem_children_iff h he).mpr ht)
  · intro node hm
    obtain ⟨c, hc, -, hchild, -⟩ := hseat node hm
    exact List.count_eq_one_of_mem (Analysis.nodup_children h)
      (List.mem_flatMap.mpr ⟨c, hc, hchild⟩)

theorem shows_draft (h : a.Sound limit) : Shows a a.draft := by
  refine ⟨?_, ?_, (Analysis.wellFormed_draft h).violations_eq_nil, ?_, ?_, ?_⟩
  · change (a.entities.map (Entity.toNode a.isGrouped)).length ≤ maxEntities
    rw [List.length_map]
    exact h.collected.few
  · rw [Analysis.draft, List.map_map]
    rfl
  · rw [Analysis.draft, List.map_map]
    rfl
  · intro link hm
    obtain ⟨r, hr, number, rfl⟩ := Analysis.mem_links_draft hm
    exact (h.related r hr).apart
  · intro containers hc
    change (if a.isGrouped then some a.tierContainers else none) = some containers at hc
    split_ifs at hc with hgrouped
    obtain rfl := Option.some.inj hc
    exact tiered_draft h hgrouped

end Draft

/-- A generated diagram shows what its description says, whatever that is, however it is laid out
and whether its links are colored or not. -/
theorem generate_shows (prompt : String) (algorithm? : Option Algorithm)
    (palette? : Option Palette) :
    Shows (analyze prompt : Analysis α) (generate prompt algorithm? palette?).diagram :=
  have hsound := sound_analyze (α := α) prompt
  (shows_draft hsound).redrawn (Analysis.wellFormed_draft hsound)
    (redrawn_generate prompt algorithm? palette?)

end ArchDiagram
