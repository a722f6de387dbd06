import ArchDiagram.Proofs.Source.LinkNumbers
import ArchDiagram.Session

namespace ArchDiagram

open Source

variable {α : Type} {d compiled : Diagram α}

theorem nodeIds_merged (d compiled : Diagram α) :
    (merged d compiled).nodeIds = d.nodeIds ++ compiled.nodeIds := List.map_append

theorem containerIds_merged (d compiled : Diagram α) :
    (merged d compiled).containerIds = d.containerIds ++ compiled.containerIds := by
  rw [Diagram.containerIds, containerList_merged, List.map_append]
  rfl

/-- The parts of a merged diagram refer to themselves only. -/
theorem Diagram.Consistent.merged (h : d.Consistent) (h' : compiled.Consistent)
    (ha : Apart d compiled) :
    (Source.merged d compiled).Consistent := by
  have hknown {container : Container α} {child : String} {e : Diagram α} (he : e.Consistent)
      (hc : container ∈ e.containerList) (hm : child ∈ container.children) : child ∈ e.nodeIds := by
    obtain ⟨node, hn, rfl, -⟩ := he.children container hc child hm
    exact List.mem_map_of_mem hn
  constructor
  · rw [nodeIds_merged]
    exact h.nodeIds.append h'.nodeIds ha.nodes
  · rw [containerIds_merged]
    exact h.containerIds.append h'.containerIds ha.containers
  · intro link hm
    rw [nodeIds_merged]
    rcases List.mem_append.mp hm with hm | hm
    · have hends := h.linkEnds link hm
      exact ⟨List.mem_append_left _ hends.1, List.mem_append_left _ hends.2⟩
    · obtain ⟨item, hi, rfl⟩ := List.mem_map.mp hm
      have hends := h'.linkEnds item.1 (List.fst_mem_of_mem_zipIdx hi)
      exact ⟨List.mem_append_right _ hends.1, List.mem_append_right _ hends.2⟩
  · intro container hc child hm
    rw [containerList_merged] at hc
    rcases List.mem_append.mp hc with hc | hc
    · obtain ⟨node, hn, ho⟩ := h.children container hc child hm
      exact ⟨node, List.mem_append_left _ hn, ho⟩
    · obtain ⟨node, hn, ho⟩ := h'.children container hc child hm
      exact ⟨node, List.mem_append_right _ hn, ho⟩
  · rw [containerList_merged, List.flatMap_append]
    refine h.once.append h'.once fun child hm hm' => ?_
    obtain ⟨container, hc, hchild⟩ := List.mem_flatMap.mp hm
    obtain ⟨container', hc', hchild'⟩ := List.mem_flatMap.mp hm'
    exact ha.nodes (hknown h hc hchild) (hknown h' hc' hchild')

variable [Scalar α]

namespace Operation

/-- An operation that fails changes nothing. -/
theorem eq_of_run_error {operation : Operation α} {error : MergeError} {after : Diagram α}
    (h : operation.run d = .error error after) : after = d := by
  cases operation with
  | addNode node => exact Editing.eq_of_change_error h
  | addLink link => exact Editing.eq_of_change_error h
  | merge title source =>
    rw [run, mergeInto_eq_merge] at h
    cases hm : Source.merge d source with
    | ok after => simp [hm] at h
    | error refused =>
      rw [hm] at h
      cases h
      rfl
  | clear => cases h

/-- Every operation that succeeds keeps the diagram consistent. -/
theorem consistent_of_run_ok {operation : Operation α} {after : Diagram α} (hd : d.Consistent)
    (h : operation.run d = .ok () after) : after.Consistent := by
  cases operation with
  | addNode node => exact hd.addNode (Editing.change_eq_ok_iff.mp h)
  | addLink link => exact hd.addLink (Editing.change_eq_ok_iff.mp h)
  | merge title source =>
    obtain ⟨compiled, hc, ha, rfl⟩ := mergeInto_eq_ok_iff.mp h
    exact hd.merged (.of_wellFormed (wellFormed_of_compile hc)) ha
  | clear =>
    cases h
    exact .clear d

theorem consistent_after (hd : d.Consistent) (operation : Operation α) :
    (operation.after d).Consistent := by
  rw [after]
  cases h : operation.run d with
  | ok _ after => exact consistent_of_run_ok hd h
  | error error after =>
    rw [eq_of_run_error h]
    exact hd

/-- Only a link that is added by itself can bring an id of its own. -/
theorem linksNumbered_after (hd : LinksNumbered d) {operation : Operation α}
    (hadd : ∀ link, operation ≠ .addLink link) : LinksNumbered (operation.after d) := by
  rw [after]
  cases h : operation.run d with
  | error error after =>
    rw [eq_of_run_error h]
    exact hd
  | ok _ after =>
    cases operation with
    | addNode node =>
      obtain ⟨-, rfl⟩ := Diagram.addNode_eq_ok_iff.mp (Editing.change_eq_ok_iff.mp h)
      exact hd
    | addLink link => exact absurd rfl (hadd link)
    | merge title source =>
      obtain ⟨compiled, -, -, rfl⟩ := mergeInto_eq_ok_iff.mp h
      exact hd.merged compiled
    | clear =>
      cases h
      rfl

end Operation

/-- Where no link is added by itself, all links have their numbers in order. -/
theorem linksNumbered_session (hd : LinksNumbered d) {operations : List (Operation α)}
    (hadd : ∀ operation ∈ operations, ∀ link, operation ≠ .addLink link) :
    LinksNumbered (session d operations) := by
  induction operations generalizing d with
  | nil => exact hd
  | cons operation operations ih =>
    have hfirst := Operation.linksNumbered_after hd (hadd operation List.mem_cons_self)
    exact ih hfirst fun later hm => hadd later (List.mem_cons_of_mem _ hm)

theorem consistent_session (hd : d.Consistent) (operations : List (Operation α)) :
    (session d operations).Consistent := by
  induction operations generalizing d with
  | nil => exact hd
  | cons operation operations ih => exact ih (Operation.consistent_after hd operation)

/-- A session that begins with an empty diagram is consistent at each of its points, as the
operations up to there are a session, too. Whatever is done next keeps this, or fails and leaves the
diagram as it was. -/
theorem session_invariant (title : String) (operations : List (Operation α)) :
    (session { title } operations).Consistent ∧ (session { title } operations).violations = [] ∧
    ∀ operation : Operation α, match operation.run (session { title } operations) with
      | .ok _ after => after.Consistent ∧ after.violations = []
      | .error _ after => after = session { title } operations := by
  have hd := consistent_session (Diagram.Consistent.empty title) operations
  refine ⟨hd, hd.violations_eq_nil, fun operation => ?_⟩
  cases h : operation.run (session { title } operations) with
  | ok _ after =>
    have hafter := Operation.consistent_of_run_ok hd h
    exact ⟨hafter, hafter.violations_eq_nil⟩
  | error error after => exact Operation.eq_of_run_error h

end ArchDiagram
