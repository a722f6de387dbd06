import Mathlib.Data.List.Nodup
import ArchDiagram.Source.Writer

namespace ArchDiagram.Source

variable {α : Type} {d : Diagram α}

/-- The id of the container to which a node belongs: the first one that lists it, else the one that
it names. -/
def ownerId? (d : Diagram α) (node : Node α) : Option String :=
  ((d.containerList.find? (·.children.contains node.id)).or
    (node.owner.bind fun id => d.containerList.find? (·.id == id))).map (·.id)

/-- The ids of the nodes that belong to a container: listed ones in the order of the list, then the
others in the order of the nodes. -/
def ownedIds (d : Diagram α) (container : Container α) : List String :=
  (container.children.filter fun child =>
    d.nodes.any fun node => node.id == child && ownerId? d node == some container.id) ++
  (d.nodes.filter fun node =>
    ownerId? d node == some container.id && !container.children.contains node.id).map (·.id)

def outside (d : Diagram α) : List (Node α) :=
  d.nodes.filter fun node => (ownerIndex? d node).isNone

def filled (d : Diagram α) : List (Container α × List (Node α)) :=
  d.containerList.zipIdx.map fun item => (item.1, members d item.2 item.1)

theorem filled_get {d : Diagram α} {item : Container α × List (Node α)} (hm : item ∈ filled d) :
    ∃ i : Nat, d.containerList[i]? = some item.1 ∧ item.2 = members d i item.1 := by
  obtain ⟨⟨container, i⟩, hi, rfl⟩ := List.mem_map.mp hm
  exact ⟨i, List.mk_mem_zipIdx_iff_getElem?.mp hi, rfl⟩

theorem map_fst_filled (d : Diagram α) : (filled d).map Prod.fst = d.containerList := by
  rw [filled, List.map_map]
  exact List.zipIdx_map_fst 0 d.containerList

theorem ownerId?_eq_bind (d : Diagram α) (node : Node α) :
    ownerId? d node = (ownerIndex? d node).bind fun i => (d.containerList[i]?).map (·.id) := by
  rw [ownerId?, ownerIndex?, List.find?_eq_bind_findIdx?_getElem?]
  cases hl : d.containerList.findIdx? (·.children.contains node.id) with
  | some i =>
    obtain ⟨hi, -, -⟩ := List.findIdx?_eq_some_iff_getElem.mp hl
    simp [hi]
  | none =>
    cases node.owner with
    | none => rfl
    | some id =>
      simp only [Option.bind_some, Option.bind_none, Option.none_or,
        List.find?_eq_bind_findIdx?_getElem?, Option.map_bind]
      rfl

theorem ownerIndex?_lt {node : Node α} {i : Nat} (h : ownerIndex? d node = some i) :
    i < d.containerList.length := by
  have hlt {p : Container α → Bool} (hp : d.containerList.findIdx? p = some i) :
      i < d.containerList.length :=
    (List.findIdx?_eq_some_iff_getElem.mp hp).1
  rcases Option.or_eq_some_iff.mp h with hl | ⟨-, ho⟩
  · exact hlt hl
  · obtain ⟨id, -, hid⟩ := Option.bind_eq_some_iff.mp ho
    exact hlt hid

/-- Places and ids of containers tell owners apart equally well. -/
theorem ownerIndex?_eq_some_iff (hc : (d.containerList.map (·.id)).Nodup) {node : Node α} {i : Nat}
    {container : Container α} (hi : d.containerList[i]? = some container) :
    ownerIndex? d node = some i ↔ ownerId? d node = some container.id := by
  rw [ownerId?_eq_bind]
  constructor
  · intro h
    simp [h, hi]
  · intro h
    obtain ⟨j, hj, hid⟩ := Option.bind_eq_some_iff.mp h
    rw [hj]
    have hlt := ownerIndex?_lt hj
    have hmap : (d.containerList.map (·.id))[j]? = (d.containerList.map (·.id))[i]? := by
      simp only [List.getElem?_map, hid, hi, Option.map_some]
    rw [List.getElem?_inj (by simpa using hlt) hc] at hmap
    rw [hmap]

theorem ownerIndex?_eq_none_iff {node : Node α} :
    ownerIndex? d node = none ↔ ownerId? d node = none := by
  rw [ownerId?_eq_bind]
  constructor
  · intro h
    simp [h]
  · intro h
    cases hi : ownerIndex? d node with
    | none => rfl
    | some i => simp [hi, ownerIndex?_lt hi] at h

section Members

variable (hn : (d.nodes.map (·.id)).Nodup) {i : Nat} {container : Container α}
include hn

theorem node?_eq_some_iff {id : String} {node : Node α} :
    d.node? id = some node ↔ node ∈ d.nodes ∧ node.id = id := by
  constructor
  · intro h
    exact ⟨List.mem_of_find?_eq_some h, by simpa using List.find?_some h⟩
  · intro hl
    obtain ⟨hm, rfl⟩ := hl
    cases hf : d.node? node.id with
    | none => simpa using List.find?_eq_none.mp hf node hm
    | some other =>
      have hid : other.id = node.id := by simpa using List.find?_some hf
      rw [List.inj_on_of_nodup_map hn (List.mem_of_find?_eq_some hf) hm hid]

omit hn

/-- Adding nodes one after the other leaves out those that are there already. -/
theorem foldl_addNew (belongs : Node α → Bool) {nodes : List (Node α)}
    (hn : (nodes.map (·.id)).Nodup) (written : List (Node α)) :
    nodes.foldl (fun written node =>
      if belongs node && !written.any (·.id == node.id) then written ++ [node] else written)
        written =
    written ++ nodes.filter fun node => belongs node && !written.any (·.id == node.id) := by
  induction nodes generalizing written with
  | nil => simp
  | cons node nodes ih =>
    rw [List.map_cons, List.nodup_cons] at hn
    rw [List.foldl_cons, ih hn.2, List.filter_cons]
    split_ifs with h
    · rw [List.append_assoc, List.singleton_append]
      congr 2
      apply List.filter_congr
      intro other ho
      have hne : node.id ≠ other.id := fun he => hn.1 (he ▸ List.mem_map_of_mem ho)
      simp [beq_false_of_ne hne]
    · rfl

/-- The nodes that a container lists and that belong to it. -/
def listed (d : Diagram α) (i : Nat) (container : Container α) : List (Node α) :=
  (container.children.filterMap d.node?).filter fun node => ownerIndex? d node == some i

include hn

theorem members_eq : members d i container = listed d i container ++
    d.nodes.filter fun node => ownerIndex? d node == some i &&
      !(listed d i container).any (·.id == node.id) :=
  foldl_addNew (fun node => ownerIndex? d node == some i) hn (listed d i container)

theorem mem_listed_iff {node : Node α} :
    node ∈ listed d i container ↔
      node ∈ d.nodes ∧ node.id ∈ container.children ∧ ownerIndex? d node = some i := by
  simp only [listed, List.mem_filter, List.mem_filterMap, node?_eq_some_iff hn, beq_iff_eq]
  constructor
  · intro h
    obtain ⟨⟨_, hc, hm, rfl⟩, ho⟩ := h
    exact ⟨hm, hc, ho⟩
  · intro h
    obtain ⟨hm, hc, ho⟩ := h
    exact ⟨⟨node.id, hc, hm, rfl⟩, ho⟩

theorem any_listed {node : Node α} (hm : node ∈ d.nodes) (ho : ownerIndex? d node = some i) :
    (listed d i container).any (·.id == node.id) = container.children.contains node.id := by
  rw [Bool.eq_iff_iff, List.any_eq_true, List.contains_iff_mem]
  constructor
  · intro h
    obtain ⟨other, hl, hid⟩ := h
    obtain ⟨-, hc, -⟩ := (mem_listed_iff hn).mp hl
    rwa [← beq_iff_eq.mp hid]
  · intro hc
    exact ⟨node, (mem_listed_iff hn).mpr ⟨hm, hc, ho⟩, beq_self_eq_true _⟩

theorem mem_members_iff {node : Node α} :
    node ∈ members d i container ↔ node ∈ d.nodes ∧ ownerIndex? d node = some i := by
  rw [members_eq hn, List.mem_append, List.mem_filter, mem_listed_iff hn]
  constructor
  · intro h
    rcases h with ⟨hm, -, ho⟩ | ⟨hm, ho⟩
    · exact ⟨hm, ho⟩
    · simp only [Bool.and_eq_true, beq_iff_eq] at ho
      exact ⟨hm, ho.1⟩
  · intro h
    obtain ⟨hm, ho⟩ := h
    by_cases hc : node.id ∈ container.children
    · exact Or.inl ⟨hm, hc, ho⟩
    · exact Or.inr ⟨hm, by simp [ho, any_listed hn hm ho, hc]⟩

theorem members_nodup (hc : container.children.Nodup) : (members d i container).Nodup := by
  rw [members_eq hn, List.nodup_append]
  refine ⟨List.Nodup.filter _ (hc.filterMap ?_), (List.Nodup.of_map _ hn).filter _, ?_⟩
  · intro a b node ha hb
    rw [← ((node?_eq_some_iff hn).mp ha).2, ← ((node?_eq_some_iff hn).mp hb).2]
  · intro node hl other ho he
    obtain rfl := he
    obtain ⟨hm, ho⟩ := List.mem_filter.mp ho
    simp only [Bool.and_eq_true, Bool.not_eq_true', List.any_eq_false] at ho
    exact ho.2 node hl (beq_self_eq_true _)

theorem mem_flatMap_members_iff {node : Node α} :
    node ∈ (d.containerList.zipIdx.flatMap fun item => members d item.2 item.1) ↔
      node ∈ d.nodes ∧ (ownerIndex? d node).isSome = true := by
  simp only [List.mem_flatMap, mem_members_iff hn, Option.isSome_iff_exists]
  constructor
  · intro h
    obtain ⟨item, -, hm, ho⟩ := h
    exact ⟨hm, item.2, ho⟩
  · intro h
    obtain ⟨hm, i, ho⟩ := h
    have hlt := ownerIndex?_lt ho
    exact ⟨(d.containerList.get ⟨i, hlt⟩,
      i), by simp [List.mk_mem_zipIdx_iff_getElem?, hlt], hm, ho⟩

theorem flatMap_members_nodup (hc : ∀ container ∈ d.containerList, container.children.Nodup) :
    (d.containerList.zipIdx.flatMap fun item => members d item.2 item.1).Nodup := by
  rw [List.nodup_flatMap]
  constructor
  · intro item hitem
    exact members_nodup hn (hc _ (List.fst_mem_of_mem_zipIdx hitem))
  · have hplaces : d.containerList.zipIdx.Pairwise fun a b => a.2 ≠ b.2 := by
      rw [← List.pairwise_map, List.zipIdx_map_snd]
      exact List.nodup_range'
    refine hplaces.imp ?_
    intro a b hab node ha hb
    have hplace := ((mem_members_iff hn).mp ha).2.symm.trans ((mem_members_iff hn).mp hb).2
    exact hab (Option.some.inj hplace)

/-- Every node is written once. -/
theorem written_perm (hc : ∀ container ∈ d.containerList, container.children.Nodup) :
    ((d.nodes.filter fun node => (ownerIndex? d node).isNone) ++
      d.containerList.zipIdx.flatMap fun item => members d item.2 item.1).Perm d.nodes := by
  have hnodes : d.nodes.Nodup := List.Nodup.of_map _ hn
  rw [List.perm_ext_iff_of_nodup ?_ hnodes]
  · intro node
    rw [List.mem_append, List.mem_filter, mem_flatMap_members_iff hn]
    cases ownerIndex? d node <;> simp
  · rw [List.nodup_append]
    refine ⟨hnodes.filter _, flatMap_members_nodup hn hc, ?_⟩
    intro node hout other hin he
    obtain rfl := he
    have hnone := (List.mem_filter.mp hout).2
    have hsome := ((mem_flatMap_members_iff hn).mp hin).2
    rw [Option.isNone_iff_eq_none.mp hnone] at hsome
    contradiction

variable (hids : (d.containerList.map (·.id)).Nodup) (hi : d.containerList[i]? = some container)
include hids hi

omit hn in
theorem beq_ownerIndex? (node : Node α) :
    (ownerIndex? d node == some i) = (ownerId? d node == some container.id) := by
  rw [Bool.eq_iff_iff, beq_iff_eq, beq_iff_eq, ownerIndex?_eq_some_iff hids hi]

/-- The id of a node tells whether the node belongs to the container. -/
theorem any_owned {node : Node α} (hm : node ∈ d.nodes) :
    (d.nodes.any fun other => other.id == node.id && ownerId? d other == some container.id) =
      (ownerIndex? d node == some i) := by
  rw [beq_ownerIndex? hids hi, Bool.eq_iff_iff, List.any_eq_true]
  constructor
  · intro hl
    obtain ⟨other, ho, h⟩ := hl
    rw [Bool.and_eq_true, beq_iff_eq] at h
    rw [← List.inj_on_of_nodup_map hn ho hm h.1]
    exact h.2
  · intro h
    exact ⟨node, hm, by simp [h]⟩

theorem map_id_filterMap_node? {children : List String}
    (hknown : ∀ child ∈ children, ∃ node ∈ d.nodes, node.id = child) :
    ((children.filterMap d.node?).filter fun node => ownerIndex? d node == some i).map (·.id) =
      children.filter fun child =>
        d.nodes.any fun node => node.id == child && ownerId? d node == some container.id := by
  induction children with
  | nil => rfl
  | cons child children ih =>
    obtain ⟨node, hm, rfl⟩ := hknown child (by simp)
    have htail := ih fun child hc => hknown child (by simp [hc])
    rw [List.filterMap_cons_some ((node?_eq_some_iff hn).mpr ⟨hm, rfl⟩), List.filter_cons,
      List.filter_cons, any_owned hn hids hi hm]
    split_ifs
    · rw [List.map_cons, htail]
    · exact htail

/-- Members are the ids that belong to the container, in the same order. -/
theorem map_id_members (hknown : ∀ child ∈ container.children, ∃ node ∈ d.nodes, node.id = child) :
    (members d i container).map (·.id) = ownedIds d container := by
  rw [members_eq hn, List.map_append, ownedIds]
  congr 1
  · exact map_id_filterMap_node? hn hids hi hknown
  · congr 1
    apply List.filter_congr
    intro node hm
    rw [← beq_ownerIndex? hids hi]
    cases ho : ownerIndex? d node == some i with
    | false => rfl
    | true => rw [any_listed hn hm (beq_iff_eq.mp ho)]

end Members

end ArchDiagram.Source
