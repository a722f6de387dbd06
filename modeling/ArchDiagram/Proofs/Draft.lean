import ArchDiagram.Draft
import ArchDiagram.Proofs.Diagram.Consistency
import ArchDiagram.Proofs.Prompt.Analysis

namespace ArchDiagram.Prompt.Analysis

variable {α : Type} [Scalar α] {limit : Nat} {a : Analysis α}

section Tiers

def tierOf (e : Entity) : Tier := Tier.ofIcon e.icon

theorem tierId_injective : Function.Injective tierId := by
  intro s t h
  cases s <;> cases t <;> first | rfl | exact absurd h (by decide)

theorem isId_tierId (tier : Tier) : Source.IsId (tierId tier) := by
  cases tier <;> decide

theorem mem_tierContainers_iff {c : Container α} :
    c ∈ a.tierContainers ↔ ∃ tier, c = a.tierContainer tier ∧ ∃ e ∈ a.entities,
    tierOf e = tier := by
  simp only [tierContainers, List.mem_filter, List.mem_map, Bool.not_eq_true',
    List.isEmpty_eq_false_iff]
  constructor
  · intro h
    obtain ⟨⟨tier, -, rfl⟩, hne⟩ := h
    obtain ⟨id, hid⟩ := List.exists_mem_of_ne_nil _ hne
    obtain ⟨e, he, -⟩ := List.mem_map.mp hid
    obtain ⟨he, ht⟩ := List.mem_filter.mp he
    exact ⟨tier, rfl, e, he, of_decide_eq_true ht⟩
  · intro h
    obtain ⟨tier, rfl, e, he, rfl⟩ := h
    refine ⟨⟨tierOf e, Tier.mem_all _, rfl⟩, List.ne_nil_of_mem (a := e.id) ?_⟩
    exact List.mem_map_of_mem (List.mem_filter.mpr ⟨he, decide_eq_true rfl⟩)

theorem children_sublist (a : Analysis α) (tier : Tier) :
    (a.tierContainer tier).children.Sublist (a.entities.map (·.id)) :=
  List.filter_sublist.map _

theorem nodup_tierContainers (a : Analysis α) : (a.tierContainers.map (·.id)).Nodup := by
  have hsub : (a.tierContainers.map (·.id)).Sublist ((Tier.all.map a.tierContainer).map (·.id)) :=
    List.filter_sublist.map _
  refine List.Nodup.sublist hsub ?_
  rw [List.map_map]
  exact List.Nodup.map tierId_injective (by decide)

variable (h : a.Sound limit)
include h

/-- The container of a tier lists the components of the tier. -/
theorem mem_children_iff {e : Entity} (he : e ∈ a.entities) {tier : Tier} :
    e.id ∈ (a.tierContainer tier).children ↔ tierOf e = tier := by
  constructor
  · intro hm
    obtain ⟨other, ho, hid⟩ := List.mem_map.mp hm
    obtain ⟨ho, ht⟩ := List.mem_filter.mp ho
    rw [← List.inj_on_of_nodup_map h.collected.ids ho he hid]
    exact of_decide_eq_true ht
  · intro ht
    exact List.mem_map_of_mem (List.mem_filter.mpr ⟨he, decide_eq_true ht⟩)

theorem nodup_children : (a.tierContainers.flatMap (·.children)).Nodup := by
  rw [List.nodup_flatMap]
  constructor
  · intro c hc
    obtain ⟨tier, rfl, -⟩ := mem_tierContainers_iff.mp hc
    exact h.collected.ids.sublist (children_sublist a tier)
  · refine (List.pairwise_map.mp (nodup_tierContainers a)).imp_of_mem ?_
    intro c c' hc hc' hne id hid hid'
    obtain ⟨tier, rfl, -⟩ := mem_tierContainers_iff.mp hc
    obtain ⟨tier', rfl, -⟩ := mem_tierContainers_iff.mp hc'
    obtain ⟨e, he, rfl⟩ := List.mem_map.mp ((children_sublist a tier).subset hid)
    have ht := (mem_children_iff h he).mp hid
    have ht' := (mem_children_iff h he).mp hid'
    exact hne (by rw [← ht, ← ht'])

end Tiers

theorem nodeIds_draft (a : Analysis α) : a.draft.nodeIds = a.entities.map (·.id) := by
  simp [draft, Diagram.nodeIds, Entity.toNode, Node.fresh, Function.comp_def]

theorem containerList_draft (a : Analysis α) :
    a.draft.containerList = if a.isGrouped then a.tierContainers else [] := by
  rw [draft, Diagram.containerList]
  split_ifs <;> rfl

theorem mem_nodes_draft {node : Node α} :
    node ∈ a.draft.nodes ↔ ∃ e ∈ a.entities, e.toNode a.isGrouped = node :=
  List.mem_map

theorem mem_links_draft {link : Link} (hm : link ∈ a.draft.links) :
    ∃ r ∈ a.relationships, ∃ number, link = r.toLink number := by
  obtain ⟨item, hitem, rfl⟩ := List.mem_map.mp hm
  exact ⟨item.1, List.fst_mem_of_mem_zipIdx hitem, item.2, rfl⟩

theorem wellFormed_draft (h : a.Sound limit) : a.draft.WellFormed := by
  refine ⟨?_, ?_, ?_, ?_, ?_, ?_, ?_⟩
  · rw [nodeIds_draft]
    exact h.collected.ids
  · rw [containerList_draft]
    split_ifs
    · exact nodup_tierContainers a
    · exact List.nodup_nil
  · intro link hm
    obtain ⟨r, hr, number, rfl⟩ := mem_links_draft hm
    rw [nodeIds_draft]
    exact ⟨(h.related r hr).source, (h.related r hr).target⟩
  · intro node hm id
    obtain ⟨e, he, rfl⟩ := mem_nodes_draft.mp hm
    have howner : (e.toNode a.isGrouped : Node α).owner =
        if a.isGrouped then some (tierId (tierOf e)) else none := rfl
    have hid : (e.toNode a.isGrouped : Node α).id = e.id := rfl
    rw [containerList_draft, howner, hid]
    split_ifs
    · constructor
      · intro howner
        obtain rfl := Option.some.inj howner
        exact ⟨_, mem_tierContainers_iff.mpr ⟨_, rfl, e, he, rfl⟩, rfl,
          (mem_children_iff h he).mpr rfl⟩
      · intro hlisted
        obtain ⟨c, hc, rfl, hchild⟩ := hlisted
        obtain ⟨tier, rfl, -⟩ := mem_tierContainers_iff.mp hc
        rw [(mem_children_iff h he).mp hchild]
        rfl
    · simp
  · rw [containerList_draft]
    split_ifs
    · exact nodup_children h
    · exact List.nodup_nil
  · intro c hc
    rw [containerList_draft] at hc
    rw [nodeIds_draft]
    split_ifs at hc
    · obtain ⟨tier, rfl, -⟩ := mem_tierContainers_iff.mp hc
      exact children_sublist a tier
    · contradiction
  · intro hnone
    change (if a.isGrouped then some a.tierContainers else none) = some [] at hnone
    split_ifs at hnone with hgrouped
    simp only [isGrouped, Bool.and_eq_true, decide_eq_true_eq] at hgrouped
    obtain ⟨e, he⟩ := List.exists_mem_of_length_pos (by omega : 0 < a.entities.length)
    have hc := mem_tierContainers_iff.mpr ⟨_, rfl, e, he, rfl⟩
    rw [Option.some.inj hnone] at hc
    contradiction

end ArchDiagram.Prompt.Analysis
