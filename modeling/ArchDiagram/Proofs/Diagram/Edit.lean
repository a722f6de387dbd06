import Mathlib.Data.List.Nodup
import ArchDiagram.Diagram.Edit
import ArchDiagram.Proofs.Diagram.Consistency

namespace ArchDiagram.Diagram

variable {α : Type} {d d' : Diagram α}

def containerIds (d : Diagram α) : List String := d.containerList.map (·.id)

@[simp] theorem isSome_node? (d : Diagram α) (id : String) :
    (d.node? id).isSome = decide (id ∈ d.nodeIds) := by
  rw [Bool.eq_iff_iff]
  simp [node?, nodeIds]

@[simp] theorem isSome_container? (d : Diagram α) (id : String) :
    (d.container? id).isSome = decide (id ∈ d.containerIds) := by
  rw [Bool.eq_iff_iff]
  simp [container?, containerIds]

theorem addNode_eq_ok_iff {node : Node α} :
    d.addNode node = .ok d' ↔ node.id ∉ d.nodeIds ∧ d' = { d with nodes := d.nodes ++ [node] } := by
  rw [addNode]
  by_cases h : node.id ∈ d.nodeIds
  · simp [h]
  · simp [h, eq_comm]

theorem find?_unknownEnd_eq_none_iff (d : Diagram α) (link : Link) :
    ([link.source, link.target].find? fun endpoint => (d.node? endpoint).isNone) = none ↔
      link.source ∈ d.nodeIds ∧ link.target ∈ d.nodeIds := by
  simp [← Option.not_isSome]

theorem addLink_eq_ok_iff {link : Link} :
    d.addLink link = .ok d' ↔
      (link.source ∈ d.nodeIds ∧ link.target ∈ d.nodeIds) ∧
      d' = { d with links := d.links ++ [link] } := by
  rw [addLink, ← find?_unknownEnd_eq_none_iff]
  split
  · next hf => simp [hf]
  · next hf => simp [hf, eq_comm]

/-- No id is given twice and every reference is to a node. A container lists only nodes that name
it, but a node can name a container that does not list it. -/
structure Consistent (d : Diagram α) : Prop where
  nodeIds : d.nodeIds.Nodup
  containerIds : d.containerIds.Nodup
  linkEnds : ∀ link ∈ d.links, link.source ∈ d.nodeIds ∧ link.target ∈ d.nodeIds
  children : ∀ container ∈ d.containerList, ∀ child ∈ container.children,
    ∃ node ∈ d.nodes, node.id = child ∧ node.owner = some container.id
  once : (d.containerList.flatMap (·.children)).Nodup

namespace Consistent

theorem violations_eq_nil (h : d.Consistent) : d.violations = [] := by
  refine d.violations_eq_nil_iff.mpr ⟨h.nodeIds, h.linkEnds, ?_⟩
  intro container hc child hm
  obtain ⟨node, hn, rfl, -⟩ := h.children container hc child hm
  exact List.mem_map_of_mem hn

theorem of_wellFormed (h : d.WellFormed) : d.Consistent := by
  refine ⟨h.nodeIds, h.containerIds, h.linkEnds, ?_, h.once⟩
  intro container hc child hm
  obtain ⟨node, hn, rfl⟩ := List.mem_map.mp ((h.inOrder container hc).subset hm)
  exact ⟨node, hn, rfl, (h.owner_iff node hn container.id).mpr ⟨container, hc, rfl, hm⟩⟩

theorem empty (title : String) : ({ title } : Diagram α).Consistent := by
  constructor <;> simp [Diagram.nodeIds, Diagram.containerIds, containerList]

theorem clear (d : Diagram α) : d.clear.Consistent := empty d.title

theorem addNode {node : Node α} (h : d.Consistent) (he : d.addNode node = .ok d') :
    d'.Consistent := by
  obtain ⟨hnew, rfl⟩ := addNode_eq_ok_iff.mp he
  have hids : Diagram.nodeIds { d with nodes := d.nodes ++ [node] } = d.nodeIds ++ [node.id] := by
    simp [Diagram.nodeIds]
  have hold {id : String} (hm : id ∈ d.nodeIds) :
      id ∈ Diagram.nodeIds { d with nodes := d.nodes ++ [node] } := by
    rw [hids]
    exact List.mem_append_left _ hm
  constructor
  · rw [hids, ← List.concat_eq_append]
    exact List.Nodup.concat hnew h.nodeIds
  · exact h.containerIds
  · intro link hm
    have hends := h.linkEnds link hm
    exact ⟨hold hends.1, hold hends.2⟩
  · intro container hc child hm
    obtain ⟨owned, hn, ho⟩ := h.children container hc child hm
    exact ⟨owned, List.mem_append_left _ hn, ho⟩
  · exact h.once

theorem addLink {link : Link} (h : d.Consistent) (he : d.addLink link = .ok d') :
    d'.Consistent := by
  obtain ⟨hends, rfl⟩ := addLink_eq_ok_iff.mp he
  refine ⟨h.nodeIds, h.containerIds, ?_, h.children, h.once⟩
  intro other hm
  rcases List.mem_append.mp hm with hm | hm
  · exact h.linkEnds other hm
  · obtain rfl : other = link := by simpa using hm
    exact hends

end Consistent

end ArchDiagram.Diagram
