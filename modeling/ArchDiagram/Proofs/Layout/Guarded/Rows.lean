import Mathlib
import ArchDiagram.Proofs.Layout.Guarded.Claims

namespace ArchDiagram.Layout.Guarded

variable {α : Type} [Scalar α]

section Free

variable {claimed : List (Claim α)} {nodes : List (Node α)} {node : Node α} {n start : Nat}

/-- The positions of the nodes for the grid, from a position on. -/
def freePlaces (claimed : List (Claim α)) (start : Nat) : List (Node α) → List Nat
  | [] => []
  | node :: later =>
    if isFree claimed node later then start :: freePlaces claimed (start + 1) later
    else freePlaces claimed (start + 1) later

theorem freePlaces_sublist (claimed : List (Claim α)) (start : Nat) (nodes : List (Node α)) :
    (freePlaces claimed start nodes).Sublist (List.range' start nodes.length) := by
  induction nodes generalizing start with
  | nil => exact List.Sublist.slnil
  | cons node later ih =>
    rw [freePlaces, List.length_cons, List.range'_succ]
    split_ifs
    · exact (ih (start + 1)).cons_cons start
    · exact (ih (start + 1)).cons start

theorem nodup_freePlaces (claimed : List (Claim α)) (start : Nat) (nodes : List (Node α)) :
    (freePlaces claimed start nodes).Nodup :=
  (List.nodup_range').sublist (freePlaces_sublist claimed start nodes)

theorem mem_freePlaces (h : n ∈ freePlaces claimed start nodes) :
    start ≤ n ∧ n < start + nodes.length := by
  have hmem := (freePlaces_sublist claimed start nodes).subset h
  rwa [List.mem_range'_1] at hmem

theorem lt_length_of_mem_freePlaces (h : n ∈ freePlaces claimed 0 nodes) :
    n < (seated claimed nodes).length := by
  have hlt := (mem_freePlaces h).2
  rwa [Nat.zero_add, ← length_seated claimed nodes] at hlt

theorem length_freePlaces (claimed : List (Claim α)) (start : Nat) (nodes : List (Node α)) :
    (freePlaces claimed start nodes).length = (freeNodes claimed nodes).length := by
  induction nodes generalizing start with
  | nil => rfl
  | cons node later ih =>
    rw [freePlaces, freeNodes]
    split_ifs
    · rw [List.length_cons, List.length_cons, ih]
    · exact ih (start + 1)

theorem freePlaces_nil (start : Nat) (nodes : List (Node α)) :
    freePlaces [] start nodes = List.range' start nodes.length := by
  induction nodes generalizing start with
  | nil => rfl
  | cons node later ih =>
    rw [freePlaces, if_pos (isFree_nil node later), ih, List.length_cons, List.range'_succ]

/-- A position is flagged when its node has a seat. -/
theorem read_flags (h : nodes[n]? = some node) :
    read (flags (nodes.map (·.id)) (takenBy [] claimed)) n =
      .ok (!isFree claimed node (nodes.drop (n + 1))) := by
  have hid : (nodes.map (·.id))[n]? = some node.id := by
    rw [List.getElem?_map, h]
    rfl
  rw [read_eq (getElem?_flags hid), ← List.map_drop]
  congr 1
  rw [Bool.eq_iff_iff, Bool.and_eq_true, decide_eq_true_eq, decide_eq_true_eq, Bool.not_eq_true',
    ← Bool.not_eq_true, isFree_iff, not_or, takenBy, List.nil_append, List.mem_flatMap]
  simp only [not_forall, not_not, exists_prop, and_comm]

theorem foldlM_free {taken : List Bool} (before nodes : List (Node α)) (found : List Nat)
    (htaken : taken = flags ((before ++ nodes).map (·.id)) (takenBy [] claimed)) :
    (List.range' before.length nodes.length).foldlM
        (fun found i => do if ← read taken i then return found else return found ++ [i]) found =
      .ok (found ++ freePlaces claimed before.length nodes) := by
  induction nodes generalizing before found with
  | nil =>
    rw [freePlaces, List.append_nil]
    rfl
  | cons node later ih =>
    have hget : (before ++ node :: later)[before.length]? = some node := by simp
    have hdrop : (before ++ node :: later).drop (before.length + 1) = later := by simp
    have hflag : read taken before.length = .ok (!isFree claimed node later) := by
      rw [htaken, read_flags hget, hdrop]
    have hrest (found : List Nat) := ih (before ++ [node]) found (by simpa using htaken)
    rw [List.length_append, List.length_singleton] at hrest
    rw [List.length_cons, List.range'_succ, List.foldlM_cons, hflag, ok_bind, freePlaces]
    cases isFree claimed node later with
    | true =>
      refine (hrest (found ++ [before.length])).trans ?_
      rw [List.append_assoc]
      rfl
    | false => exact hrest found

theorem free_eq (claimed : List (Claim α)) (nodes : List (Node α)) :
    free (flags (nodes.map (·.id)) (takenBy [] claimed)) nodes.length =
      .ok (freePlaces claimed 0 nodes) := by
  rw [free, List.range_eq_range']
  exact foldlM_free [] nodes [] rfl

/-- Who has no seat yet is still as before. -/
theorem filterMap_freePlaces (claimed : List (Claim α)) (before nodes : List (Node α)) :
    (freePlaces claimed before.length nodes).filterMap ((before ++ seated claimed nodes)[·]?) =
      freeNodes claimed nodes := by
  induction nodes generalizing before with
  | nil => rfl
  | cons node later ih =>
    have hsplit (first : Node α) (rest : List (Node α)) :
        before ++ first :: rest = before ++ [first] ++ rest := by simp
    have hnext (first : Node α) : before.length + 1 = (before ++ [first]).length := by simp
    rw [freePlaces, freeNodes, seated]
    split_ifs
    · have hget : (before ++ node :: seated claimed later)[before.length]? = some node := by simp
      rw [List.filterMap_cons_some hget, hsplit, hnext node, ih]
    · rw [hsplit, hnext, ih]

/-- A node for the grid has the slot that its position has among those of all of them. -/
theorem getElem?_placeNodes (claimed : List (Claim α)) (put : Nat → Node α → Node α)
    (slot start : Nat) (nodes : List (Node α)) (n : Nat) :
    (placeNodes claimed put slot nodes)[n]? = (seated claimed nodes)[n]?.map fun node =>
      (((freePlaces claimed start nodes).idxOf? (start + n)).map fun k =>
        put (slot + k) node).getD node := by
  induction nodes generalizing slot start n with
  | nil => rfl
  | cons node later ih =>
    rw [placeNodes, seated, freePlaces]
    cases n with
    | zero =>
      split_ifs
      · rw [List.idxOf?_cons]
        simp
      · have hnot : start ∉ freePlaces claimed (start + 1) later := fun h => by
          have hle := (mem_freePlaces h).1
          omega
        rw [Nat.add_zero, List.idxOf?_eq_none_iff.mpr hnot]
        rfl
    | succ n =>
      have hnext : start + (n + 1) = start + 1 + n := by omega
      split_ifs
      · have hne : ¬(start == start + (n + 1)) = true := by simp
        rw [List.getElem?_cons_succ, List.getElem?_cons_succ, ih (slot + 1) (start + 1),
          List.idxOf?_cons, if_neg hne, hnext]
        congr 1
        funext node
        cases (freePlaces claimed (start + 1) later).idxOf? (start + 1 + n) with
        | none => rfl
        | some k =>
          have hslot : slot + 1 + k = slot + (k + 1) := by omega
          simp [hslot]
      · rw [List.getElem?_cons_succ, List.getElem?_cons_succ, ih slot (start + 1), hnext]

/-- To put the nodes at the free positions into the grid completes the seats. -/
theorem scatter_freePlaces (claimed : List (Claim α)) (put : Nat → Node α → Node α)
    (nodes : List (Node α)) :
    scatter put (freePlaces claimed 0 nodes) 0 (seated claimed nodes) =
      placeNodes claimed put 0 nodes := by
  apply List.ext_getElem?
  intro n
  rw [getElem?_placeNodes claimed put 0 0, scatter, List.getElem?_mapIdx, Nat.zero_add]

end Free

section Levels

variable {plan : Plan α} {claimed : List (Claim α)} {nodes : List (Node α)}

omit [Scalar α] in
/-- No slot lies in a level beyond the last one, and so none counts down below zero. -/
theorem levelOf_eq {levels : Levels α} {slot : Nat} (hcolumns : 0 < levels.columns)
    (hlevel : slot / levels.columns < levels.count) : levelOf levels plan slot =
      .ok (if plan.flow.isReversed then levels.count - 1 - slot / levels.columns else slot /
        levels.columns) := by
  have hone : 1 ≤ levels.count := Nat.lt_of_le_of_lt (Nat.zero_le _) hlevel
  have hback : slot / levels.columns ≤ levels.count - 1 := Nat.le_sub_one_of_lt hlevel
  rw [levelOf, quotient_eq hcolumns, ok_bind]
  split_ifs
  · rw [difference_eq hone, ok_bind, difference_eq hback]
  · rfl

theorem put_eq {levels : Levels α} {slot : Nat} (hcolumns : 0 < levels.columns)
    (hlevel : slot / levels.columns < levels.count) (node : Node α) :
    put levels plan slot node = .ok (levels.put plan slot node) := by
  rw [put, remainder_eq hcolumns, ok_bind, levelOf_eq hcolumns hlevel, ok_bind, Levels.put]
  dsimp only
  cases plan.flow.isHorizontal <;> rfl

theorem largestAt_eq (measure : Node α → α) (claimed : List (Claim α)) (nodes : List (Node α)) :
    largestAt measure (seated claimed nodes) (freePlaces claimed 0 nodes) =
      .ok (largest ((freeNodes claimed nodes).map measure)) := by
  have hlt : ∀ i ∈ freePlaces claimed 0 nodes, i < (seated claimed nodes).length := fun _ hi =>
    lt_length_of_mem_freePlaces hi
  have hfree := filterMap_freePlaces claimed [] nodes
  rw [List.length_nil, List.nil_append] at hfree
  rw [largestAt, foldlM_read (f := fun most node => Scalar.max most (measure node)) hlt, hfree,
    largest, List.foldl_map]

/-- The nodes for the grid get their places at their positions. -/
theorem placeLevels_eq (plan : Plan α) (originX originY : α) (claimed : List (Claim α))
    (nodes : List (Node α)) :
    placeLevels plan originX originY (freePlaces claimed 0 nodes) (seated claimed nodes) =
      .ok (placeNodes claimed
        ((Levels.ofNodes plan originX originY (freeNodes claimed nodes)).put plan) 0 nodes) := by
  have hnodup := nodup_freePlaces claimed 0 nodes
  have hlt : ∀ i ∈ freePlaces claimed 0 nodes, i < (seated claimed nodes).length := fun _ hi =>
    lt_length_of_mem_freePlaces hi
  have hlength := length_freePlaces claimed 0 nodes
  rw [← scatter_freePlaces, placeLevels, largestAt_eq, largestAt_eq]
  generalize freePlaces claimed 0 nodes = places at hnodup hlt hlength ⊢
  by_cases hempty : places = []
  · subst hempty
    rw [scatter_nil]
    rfl
  · have hpos : 0 < places.length := List.length_pos_iff.mpr hempty
    have hnot : ¬places.isEmpty = true := by rwa [List.isEmpty_iff]
    have hcolumns : 0 < tightened plan.compact (ceilSqrt places.length) :=
      tightened_pos _ (ceilSqrt_pos hpos)
    rw [if_neg hnot, tighten_eq _ (ceilSqrt_pos hpos), ok_bind, rows_eq hcolumns, ok_bind,
      ok_bind, ok_bind,
      updateAll_eq hnodup hlt fun slot node hslot =>
        put_eq hcolumns (lt_rowsFor hcolumns hslot) node,
      Levels.ofNodes, ← hlength]

end Levels

section Arrange

variable [Divisors α]

omit [Divisors α] in
theorem shelvesOf_eq (plan : Plan α) (containers : List (Container α)) :
    shelvesOf plan (containerColumns containers.length plan.compact) (sizesOf containers) =
      Shelves.ofContainers plan containers := by
  rw [shelvesOf, sizesOf, List.map_map, List.map_map, Shelves.ofContainers, List.map_map,
    List.map_map]
  rfl

theorem arrange_eq (plan : Plan α) (scene : Scene α) :
    arrange plan scene = .ok (scene.arrange plan) := by
  rw [arrange]
  by_cases hempty : scene.containers = []
  · have hnone : scene.claimed plan = [] := by
      rw [Scene.claimed, Scene.shelved, hempty]
      rfl
    have hplaces := placeLevels_eq plan gridMargin gridMargin [] scene.nodes
    rw [freePlaces_nil, seated_nil, ← List.range_eq_range'] at hplaces
    rw [if_pos (List.isEmpty_iff.mpr hempty), hplaces, ok_bind, Layout.arrange_eq, hnone,
      Scene.levels, hnone, Scene.shelved, hempty]
    rfl
  · have hnot : ¬scene.containers.isEmpty = true := by rwa [List.isEmpty_iff]
    have hpos : 0 < scene.containers.length := List.length_pos_iff.mpr hempty
    have hcolumns : 0 < containerColumns scene.containers.length false :=
      containerColumns_pos false hpos
    have hcompact : 0 < containerColumns scene.containers.length plan.compact :=
      containerColumns_pos plan.compact hpos
    have htight : tightened plan.compact (containerColumns scene.containers.length false) =
        containerColumns scene.containers.length plan.compact := rfl
    have hclaimed :
        claimsOf (Shelves.ofContainers plan scene.containers) (scene.nodes.map (·.id)) [] 0
        scene.containers = scene.claimed plan := rfl
    have hshelved :=
      shelveAll_eq (Shelves.ofContainers plan scene.containers) (sizesOf scene.containers)
      hcompact [] 0 scene.containers scene.nodes rfl
    have hfree := free_eq (scene.claimed plan) scene.nodes
    have hbottom : (if (scene.shelved plan).isEmpty then gridMargin
        else (Shelves.ofContainers plan scene.containers).bottom (scene.shelved plan).length) =
        (Shelves.ofContainers plan scene.containers).bottom scene.containers.length := by
      have hlength : (scene.shelved plan).length = scene.containers.length := length_putAll _ 0 _
      have hsome : ¬(scene.shelved plan).isEmpty = true := by
        rwa [List.isEmpty_iff, ← List.length_eq_zero_iff, hlength, List.length_eq_zero_iff]
      rw [if_neg hsome, hlength]
    rw [flags_nil, List.length_map, hclaimed] at hshelved
    rw [if_neg hnot, tighten_eq _ hcolumns, ok_bind, htight, rows_eq hcompact, ok_bind]
    dsimp only
    rw [shelvesOf_eq, hshelved, ok_bind]
    dsimp only
    rw [length_seated, hfree, ok_bind, placeLevels_eq, ok_bind, Layout.arrange_eq, Scene.levels,
      hbottom]
    rfl

end Arrange

end ArchDiagram.Layout.Guarded
