import Mathlib.Data.List.Nodup
import ArchDiagram.Diagram.Violation

namespace ArchDiagram.Diagram

variable {α : Type}

theorem repeatedIds_eq_nil_iff (seen ids : List String) :
    repeatedIds seen ids = [] ↔ ids.Nodup ∧ ∀ id ∈ ids, id ∉ seen := by
  induction ids generalizing seen with
  | nil => simp [repeatedIds]
  | cons id rest ih =>
    by_cases h : id ∈ seen
    · simp [repeatedIds, h]
    · have hs : seen.contains id = false := by simpa using h
      rw [repeatedIds, hs, if_neg Bool.false_ne_true, ih]
      simp only [List.mem_cons, not_or, List.nodup_cons, forall_eq_or_imp]
      constructor
      · intro hl
        obtain ⟨hn, hr⟩ := hl
        exact ⟨⟨fun hm => (hr id hm).1 rfl, hn⟩, h, fun x hx => (hr x hx).2⟩
      · intro hl
        obtain ⟨⟨hid, hn⟩, -, hr⟩ := hl
        exact ⟨hn, fun x hx => ⟨fun he => hid (he ▸ hx), hr x hx⟩⟩

/-- No violation is left exactly if the ids of the nodes differ and every reference is to one of
them. -/
theorem violations_eq_nil_iff (d : Diagram α) :
    d.violations = [] ↔ d.nodeIds.Nodup ∧
      (∀ link ∈ d.links, link.source ∈ d.nodeIds ∧ link.target ∈ d.nodeIds) ∧
      ∀ container ∈ d.containerList, ∀ child ∈ container.children, child ∈ d.nodeIds := by
  simp only [violations, List.append_eq_nil_iff, List.map_eq_nil_iff, repeatedIds_eq_nil_iff,
    List.flatMap_eq_nil_iff, List.filterMap_eq_nil_iff]
  simp [and_assoc]

theorem validate_eq_ok_iff (d : Diagram α) : d.validate = .ok () ↔ d.violations = [] := by
  rw [validate]
  cases d.violations <;> simp

/-- All references agree with each other: a node names a container exactly if the container lists
it, and no node is listed twice. -/
structure WellFormed (d : Diagram α) : Prop where
  nodeIds : d.nodeIds.Nodup
  containerIds : (d.containerList.map (·.id)).Nodup
  linkEnds : ∀ link ∈ d.links, link.source ∈ d.nodeIds ∧ link.target ∈ d.nodeIds
  owner_iff : ∀ node ∈ d.nodes, ∀ id, node.owner = some id ↔
    ∃ container ∈ d.containerList, container.id = id ∧ node.id ∈ container.children
  once : (d.containerList.flatMap (·.children)).Nodup
  inOrder : ∀ container ∈ d.containerList, container.children.Sublist d.nodeIds
  listed : d.containers ≠ some []

theorem WellFormed.violations_eq_nil {d : Diagram α} (h : d.WellFormed) : d.violations = [] :=
  d.violations_eq_nil_iff.mpr ⟨h.nodeIds, h.linkEnds, fun c hc _ hm => (h.inOrder c hc).subset hm⟩

end ArchDiagram.Diagram
