import Mathlib
import ArchDiagram.Proofs.Layout.Guarded.Steps
import ArchDiagram.Proofs.Layout.Cells
import ArchDiagram.Proofs.Layout.Fresh
import ArchDiagram.Proofs.Prompt.Collection

namespace ArchDiagram.Layout.Guarded

section Positions

variable {ids claimed taken : List String} {id : String} {n : Nat}

theorem lastIndex?_concat (ids : List String) (x id : String) :
    lastIndex? (ids ++ [x]) id = if x = id then some ids.length else lastIndex? ids id := by
  simp [lastIndex?, List.zipIdx_append]

theorem lastIndex?_eq_some_iff :
    lastIndex? ids id = some n ↔ ids[n]? = some id ∧ id ∉ ids.drop (n + 1) := by
  induction ids using List.reverseRecOn with
  | nil => simp [lastIndex?]
  | append_singleton ids x ih =>
    rw [lastIndex?_concat]
    rcases Nat.lt_trichotomy n ids.length with hlt | rfl | hgt
    · rw [List.getElem?_append_left hlt, List.drop_append_of_le_length hlt, List.mem_append,
        List.mem_singleton]
      split_ifs with hx
      · have hne : ids.length ≠ n := by omega
        simp [hx, hne]
      · have hne : id ≠ x := fun h => hx h.symm
        rw [ih]
        simp [hne]
    · rw [List.getElem?_concat_length]
      have hdrop : (ids ++ [x]).drop (ids.length + 1) = [] := by simp
      rw [hdrop]
      split_ifs with hx
      · simp [hx]
      · have hnone : ids[ids.length]? = none := List.getElem?_eq_none (Nat.le_refl _)
        rw [ih, hnone]
        simp [hx]
    · have hnone : (ids ++ [x])[n]? = none := List.getElem?_eq_none (by simp; omega)
      have hnone' : ids[n]? = none := List.getElem?_eq_none (by omega)
      rw [hnone]
      split_ifs
      · have hne : ids.length ≠ n := by omega
        simp [hne]
      · rw [ih, hnone']
        simp

theorem exists_lastIndex? (h : id ∈ ids) : ∃ n, lastIndex? ids id = some n := by
  induction ids using List.reverseRecOn with
  | nil => contradiction
  | append_singleton ids x ih =>
    rw [lastIndex?_concat]
    split_ifs with hx
    · exact ⟨_, rfl⟩
    · rw [List.mem_append, List.mem_singleton] at h
      exact ih (h.resolve_right fun he => hx he.symm)

/-- The positions of the nodes that some ids belong to. -/
def positions (ids claimed : List String) : List Nat := claimed.filterMap (lastIndex? ids)

theorem lt_length_of_mem_positions (h : n ∈ positions ids claimed) : n < ids.length := by
  obtain ⟨id, -, hid⟩ := List.mem_filterMap.mp h
  obtain ⟨hget, -⟩ := lastIndex?_eq_some_iff.mp hid
  obtain ⟨hlt, -⟩ := List.getElem?_eq_some_iff.mp hget
  exact hlt

theorem nodup_positions (h : claimed.Nodup) : (positions ids claimed).Nodup := by
  refine h.filterMap ?_
  intro a b n ha hb
  obtain ⟨hga, -⟩ := lastIndex?_eq_some_iff.mp ha
  obtain ⟨hgb, -⟩ := lastIndex?_eq_some_iff.mp hb
  exact Option.some.inj (hga.symm.trans hgb)

theorem length_positions (h : ∀ id ∈ claimed, id ∈ ids) :
    (positions ids claimed).length = claimed.length := by
  induction claimed with
  | nil => rfl
  | cons id claimed ih =>
    obtain ⟨n, hn⟩ := exists_lastIndex? (h id List.mem_cons_self)
    have hrest := ih fun other ho => h other (List.mem_cons_of_mem id ho)
    rw [positions] at hrest
    rw [positions, List.filterMap_cons_some hn, List.length_cons, List.length_cons, hrest]

/-- The place of a node among those that are taken is the place of its id, and only the last node
with the id has one. -/
theorem idxOf?_positions (h : ∀ id ∈ claimed, id ∈ ids) (hid : ids[n]? = some id) :
    (positions ids claimed).idxOf? n = if id ∈
      ids.drop (n + 1) then none else claimed.idxOf? id := by
  induction claimed with
  | nil =>
    rw [positions, List.filterMap_nil]
    simp
  | cons other claimed ih =>
    obtain ⟨m, hm⟩ := exists_lastIndex? (h other List.mem_cons_self)
    have hrest := ih fun id hc => h id (List.mem_cons_of_mem other hc)
    rw [positions] at hrest
    rw [positions, List.filterMap_cons_some hm, List.idxOf?_cons, hrest, List.idxOf?_cons]
    by_cases hlater : id ∈ ids.drop (n + 1)
    · have hne : m ≠ n := by
        rintro rfl
        obtain ⟨hget, hlast⟩ := lastIndex?_eq_some_iff.mp hm
        have he : other = id := Option.some.inj (hget.symm.trans hid)
        exact hlast (he ▸ hlater)
      simp [hlater, hne]
    · have hn : lastIndex? ids id = some n := lastIndex?_eq_some_iff.mpr ⟨hid, hlater⟩
      have hsame : m = n ↔ other = id := by
        constructor
        · rintro rfl
          obtain ⟨hget, -⟩ := lastIndex?_eq_some_iff.mp hm
          exact Option.some.inj (hget.symm.trans hid)
        · rintro rfl
          exact Option.some.inj (hm.symm.trans hn)
      simp [hlater, hsame]

/-- The positions whose nodes are taken. -/
def flags (ids taken : List String) : List Bool :=
  ids.mapIdx fun n id => decide (id ∈ taken) && decide (id ∉ ids.drop (n + 1))

theorem getElem?_flags (hid : ids[n]? = some id) :
    (flags ids taken)[n]? = some (decide (id ∈ taken) && decide (id ∉ ids.drop (n + 1))) := by
  rw [flags, List.getElem?_mapIdx, hid]
  rfl

theorem flags_nil (ids : List String) : flags ids [] = List.replicate ids.length false := by
  apply List.ext_getElem?
  intro n
  cases hid : ids[n]? with
  | none =>
    have hle := List.getElem?_eq_none_iff.mp hid
    rw [flags, List.getElem?_mapIdx, hid, List.getElem?_eq_none (by rwa [List.length_replicate])]
    rfl
  | some id =>
    obtain ⟨hlt, -⟩ := List.getElem?_eq_some_iff.mp hid
    rw [getElem?_flags hid, List.getElem?_replicate_of_lt hlt]
    simp

/-- To take one more id flags one position. -/
theorem set_flags (h : lastIndex? ids id = some n) :
    (flags ids taken).set n true = flags ids (taken ++ [id]) := by
  obtain ⟨hget, hlast⟩ := lastIndex?_eq_some_iff.mp h
  obtain ⟨hlt, -⟩ := List.getElem?_eq_some_iff.mp hget
  apply List.ext_getElem?
  intro m
  by_cases hm : n = m
  · subst hm
    rw [List.getElem?_set_self (by rwa [flags, List.length_mapIdx]), getElem?_flags hget]
    simp [hlast]
  · rw [List.getElem?_set_ne hm]
    cases hother : ids[m]? with
    | none => rw [flags, flags, List.getElem?_mapIdx, List.getElem?_mapIdx, hother]; rfl
    | some other =>
      rw [getElem?_flags hother, getElem?_flags hother]
      by_cases he : other = id
      · -- an earlier node with the same id is not the one that it belongs to
        have hlater : other ∈ ids.drop (m + 1) := by
          by_contra hlater
          have hm' : lastIndex? ids other = some m := lastIndex?_eq_some_iff.mpr ⟨hother, hlater⟩
          rw [he, h] at hm'
          exact hm (Option.some.inj hm')
        simp [hlater]
      · simp [he]

/-- The ids that a container claims. -/
def claimedIds (ids taken children : List String) : List String :=
  children.eraseDups.filter fun id => ids.contains id && !taken.contains id

theorem mem_claimedIds {children : List String} :
    id ∈ claimedIds ids taken children ↔ id ∈ children ∧ id ∈ ids ∧ id ∉ taken := by
  rw [claimedIds, List.mem_filter, List.mem_eraseDups]
  simp

theorem nodup_claimedIds (ids taken children : List String) :
    (claimedIds ids taken children).Nodup :=
  (Prompt.nodup_eraseDups children).filter _

theorem take_eq_skip {state : List Nat} (h : id ∉ ids ∨ id ∈ taken) :
    take ids (flags ids taken, state) id = .ok (flags ids taken, state) := by
  rw [take]
  cases hn : lastIndex? ids id with
  | none => rfl
  | some n =>
    obtain ⟨hget, hlast⟩ := lastIndex?_eq_some_iff.mp hn
    have htaken : id ∈ taken := h.resolve_left fun hnot => hnot (List.mem_of_getElem? hget)
    have hflag : read (flags ids taken) n = .ok true := by
      rw [read_eq (getElem?_flags hget)]
      simp [htaken, hlast]
    dsimp only
    rw [hflag]
    rfl

theorem take_eq_claim {state : List Nat} (hids : id ∈ ids) (h : id ∉ taken) :
    take ids (flags ids taken, state) id =
      .ok (flags ids (taken ++ [id]), state ++ positions ids [id]) := by
  obtain ⟨n, hn⟩ := exists_lastIndex? hids
  obtain ⟨hget, -⟩ := lastIndex?_eq_some_iff.mp hn
  obtain ⟨hlt, -⟩ := List.getElem?_eq_some_iff.mp hget
  have hflag : read (flags ids taken) n = .ok false := by
    rw [read_eq (getElem?_flags hget)]
    simp [h]
  have hwrite : write (flags ids taken) n true = .ok (flags ids (taken ++ [id])) := by
    rw [write_eq (by rwa [flags, List.length_mapIdx]), set_flags hn]
  rw [take, hn]
  dsimp only
  rw [hflag, positions, List.filterMap_cons_some hn, ok_bind, if_neg Bool.false_ne_true, hwrite]
  rfl

/-- The list of a container is gone through once. -/
theorem foldlM_take (ids taken children : List String) :
    children.foldlM (take ids) (flags ids taken, []) =
      .ok (flags ids (taken ++ claimedIds ids taken children),
        positions ids (claimedIds ids taken children)) := by
  induction children using List.reverseRecOn with
  | nil =>
    rw [claimedIds, List.eraseDups_nil, List.filter_nil, List.append_nil]
    rfl
  | append_singleton children id ih =>
    rw [List.foldlM_append, ih, ok_bind, List.foldlM_cons]
    by_cases hold : id ∈ children
    · have hskip : id ∉ ids ∨ id ∈ taken ++ claimedIds ids taken children := by
        rw [List.mem_append, mem_claimedIds]
        tauto
      have hsame : claimedIds ids taken (children ++ [id]) = claimedIds ids taken children := by
        rw [claimedIds, Prompt.eraseDups_concat_of_mem hold, claimedIds]
      rw [take_eq_skip hskip, hsame]
      rfl
    · have hsplit : claimedIds ids taken (children ++ [id]) =
          claimedIds ids taken children ++ [id].filter fun id => ids.contains id &&
            !taken.contains id := by
        rw [claimedIds, Prompt.eraseDups_concat_of_not_mem hold, List.filter_append, claimedIds]
      by_cases hclaim : id ∈ ids ∧ id ∉ taken
      · have hnew : id ∉ taken ++ claimedIds ids taken children := by
          rw [List.mem_append, mem_claimedIds]
          tauto
        have hone : [id].filter (fun id => ids.contains id && !taken.contains id) = [id] := by
          simp [hclaim]
        rw [take_eq_claim hclaim.1 hnew, hsplit, hone, List.append_assoc, positions, positions,
          positions, List.filterMap_append]
        rfl
      · have hskip : id ∉ ids ∨ id ∈ taken ++ claimedIds ids taken children := by
          rw [List.mem_append]
          tauto
        have hnone : [id].filter (fun id => ids.contains id && !taken.contains id) = [] := by
          simp
          tauto
        rw [take_eq_skip hskip, hsplit, hnone, List.append_nil]
        rfl

end Positions

section Seats

variable {α : Type} [Scalar α] {claim : Claim α} {claimed rest : List (Claim α)}
  {ids : List String} {node : Node α}
  {nodes : List (Node α)} {n slot : Nat}

theorem isFree_iff {later : List (Node α)} :
    isFree claimed node later = true ↔ node.id ∈ later.map (·.id) ∨ ∀ claim ∈ claimed,
    node.id ∉ claim.ids := by
  rw [isFree, Bool.or_eq_true, ← Option.not_isSome, isSome_seat?]
  simp only [List.any_eq_true, List.mem_map, beq_iff_eq, Bool.not_eq_true', List.any_eq_false,
    List.isSome_idxOf?]

/-- The nodes that containers claim in their seats, the others as they are. -/
def seated (claimed : List (Claim α)) : List (Node α) → List (Node α)
  | [] => []
  | node :: later =>
    (if isFree claimed node later then node else (seat? claimed node).getD node) ::
      seated claimed later

theorem map_id_seated (claimed : List (Claim α)) (nodes : List (Node α)) :
    (seated claimed nodes).map (·.id) = nodes.map (·.id) := by
  induction nodes with
  | nil => rfl
  | cons node later ih =>
    rw [seated, List.map_cons, List.map_cons, ih]
    congr 1
    split_ifs with h
    · rfl
    · obtain ⟨there, hs⟩ := exists_seat? h
      obtain ⟨claim, -, -, slot, rfl⟩ := seat?_eq_some hs
      rw [hs]
      rfl

theorem length_seated (claimed : List (Claim α)) (nodes : List (Node α)) :
    (seated claimed nodes).length = nodes.length := by
  simpa using congrArg List.length (map_id_seated claimed nodes)

theorem getElem?_seated (claimed : List (Claim α)) (nodes : List (Node α)) (n : Nat) :
    (seated claimed nodes)[n]? = nodes[n]?.map fun node =>
      if isFree claimed node (nodes.drop (n + 1)) then node
        else (seat? claimed node).getD node := by
  induction nodes generalizing n with
  | nil => rfl
  | cons node later ih =>
    cases n with
    | zero => rfl
    | succ n =>
      rw [seated, List.getElem?_cons_succ, List.getElem?_cons_succ, ih]
      rfl

/-- Without containers every node goes to the grid. -/
theorem isFree_nil (node : Node α) (later : List (Node α)) : isFree [] node later = true :=
  isFree_iff.mpr (Or.inr fun _ h => absurd h List.not_mem_nil)

theorem seated_nil (nodes : List (Node α)) : seated [] nodes = nodes := by
  induction nodes with
  | nil => rfl
  | cons node later ih => rw [seated, if_pos (isFree_nil node later), ih]

theorem seat?_singleton (claim : Claim α) (node : Node α) :
    seat? [claim] node = (claim.ids.idxOf? node.id).map fun slot => claim.seat slot node := by
  rw [seat?, List.findSome?_cons]
  cases claim.ids.idxOf? node.id <;> rfl

theorem seat?_cons (claim : Claim α) (rest : List (Claim α)) (node : Node α) :
    seat? (claim :: rest) node = (seat? [claim] node).or (seat? rest node) := by
  rw [seat?_singleton, seat?, List.findSome?_cons]
  cases claim.ids.idxOf? node.id <;> rfl

/-- To seat the nodes at the positions of the claimed ids is to seat those that claim sees. -/
theorem scatter_seat (claim : Claim α) (h : ∀ id ∈ claim.ids, id ∈ nodes.map (·.id)) :
    scatter claim.seat (positions (nodes.map (·.id)) claim.ids) 0 nodes = seated [claim] nodes := by
  apply List.ext_getElem?
  intro n
  rw [scatter, List.getElem?_mapIdx, getElem?_seated]
  cases hn : nodes[n]? with
  | none => rfl
  | some node =>
    have hid : (nodes.map (·.id))[n]? = some node.id := by rw [List.getElem?_map, hn]; rfl
    rw [Option.map_some, Option.map_some, idxOf?_positions h hid, seat?_singleton, ← List.map_drop]
    by_cases hfree : isFree [claim] node (nodes.drop (n + 1)) = true
    · rw [if_pos hfree]
      rcases isFree_iff.mp hfree with hlater | hnot
      · rw [if_pos hlater]
        rfl
      · rw [List.idxOf?_eq_none_iff.mpr (hnot claim (List.mem_singleton_self claim)), ite_self]
        rfl
    · have hlater : node.id ∉ (nodes.drop (n + 1)).map (·.id) :=
        fun h => hfree (isFree_iff.mpr (Or.inl h))
      rw [if_neg hfree, if_neg hlater]
      simp only [Nat.zero_add]

/-- Containers seat their nodes one after the other when none claims an id of an earlier one. -/
theorem seated_seated (claim : Claim α) (h : ∀ id ∈ claim.ids, ∀ other ∈ rest, id ∉ other.ids)
    (nodes : List (Node α)) :
    seated rest (seated [claim] nodes) = seated (claim :: rest) nodes := by
  induction nodes with
  | nil => rfl
  | cons node later ih =>
    have hfree (other : Node α) (hid : other.id = node.id) :
        isFree rest other (seated [claim] later) = isFree rest node later :=
          isFree_congr hid (map_id_seated _ later)
    rw [seated, seated, seated, ih, List.cons.injEq]
    refine ⟨?_, rfl⟩
    by_cases hlater : node.id ∈ later.map (·.id)
    · have hall (claimed : List (Claim α)) : isFree claimed node later = true :=
        isFree_iff.mpr (Or.inl hlater)
      rw [if_pos (hall [claim]), hfree node rfl, if_pos (hall rest), if_pos (hall (claim :: rest))]
    · have hlast (claimed : List (Claim α)) :
          isFree claimed node later = true ↔ ∀ claim ∈ claimed, node.id ∉ claim.ids := by
        rw [isFree_iff, or_iff_right hlater]
      by_cases hmem : node.id ∈ claim.ids
      · have hseat : ¬isFree [claim] node later = true := fun h =>
          (hlast _).mp h claim (List.mem_singleton_self claim) hmem
        have hseat' : ¬isFree (claim :: rest) node later = true := fun h =>
          (hlast _).mp h claim List.mem_cons_self hmem
        obtain ⟨there, hs⟩ := exists_seat? hseat
        obtain ⟨holder, -, -, slot, rfl⟩ := seat?_eq_some hs
        have hdone : isFree rest node later = true := (hlast rest).mpr (h node.id hmem)
        rw [if_neg hseat, if_neg hseat', seat?_cons claim rest, hs, Option.getD_some,
          hfree (holder.seat slot node) rfl, if_pos hdone]
        rfl
      · have hpass : isFree [claim] node later = true := by
          rw [hlast]
          simpa using hmem
        have hsame : isFree (claim :: rest) node later = isFree rest node later := by
          rw [Bool.eq_iff_iff, hlast, hlast]
          simp [hmem]
        have hnone : seat? [claim] node = none := by
          rw [seat?_singleton, List.idxOf?_eq_none_iff.mpr hmem]
          rfl
        rw [if_pos hpass, hfree node rfl, hsame, seat?_cons claim rest, hnone, Option.none_or]

omit [Scalar α] in
theorem own_eq {c : Container α} {places : List Nat} (hnodup : places.Nodup)
    (hlt : ∀ i ∈ places, i < nodes.length) :
    own c places nodes =
      .ok (scatter (fun _ node => { node with owner := some c.id }) places 0 nodes) :=
  updateAll_eq hnodup hlt fun _ _ _ => rfl

theorem shelve_eq {shelves : Shelves α} {sizes : List (α × α)} {index : Nat} {c : Container α}
    (hcolumns : 0 < shelves.columns)
    (hsize : sizes[index]? =
      some (containerWidth c.children.length, containerHeight c.children.length)) :
    shelve shelves sizes index c = .ok (shelves.put index c) := by
  rw [shelve, remainder_eq hcolumns, ok_bind, quotient_eq hcolumns, ok_bind, read_eq hsize, ok_bind]
  rfl

/-- The containers in their cells, each with the ids that it claims. -/
def claimsOf (shelves : Shelves α) (ids taken : List String) (index : Nat)
    (containers : List (Container α)) :
    List (Claim α) :=
  List.zipWith Claim.mk (shelves.putAll index containers)
    (claims ids taken (shelves.putAll index containers))

theorem claimsOf_cons (shelves : Shelves α) (ids taken : List String) (index : Nat)
    (c : Container α) (rest : List (Container α)) : claimsOf shelves ids taken index (c :: rest) =
      ⟨shelves.put index c, claimedIds ids taken c.children⟩ ::
        claimsOf shelves ids (taken ++ claimedIds ids taken c.children) (index + 1) rest := rfl

/-- No container claims what is taken. -/
theorem not_taken {shelves : Shelves α} {ids taken : List String} {index : Nat}
    {containers : List (Container α)} {id : String}
    (hclaim : claim ∈ claimsOf shelves ids taken index containers) (hid : id ∈ claim.ids) :
    id ∉ taken := by
  induction containers generalizing taken index with
  | nil => contradiction
  | cons c rest ih =>
    rw [claimsOf_cons, List.mem_cons] at hclaim
    rcases hclaim with rfl | hclaim
    · exact (mem_claimedIds.mp hid).2.2
    · have hnot := ih hclaim
      rw [List.mem_append, not_or] at hnot
      exact hnot.1

/-- The ids that are taken in the end. -/
def takenBy (taken : List String) (claimed : List (Claim α)) : List String :=
  taken ++ claimed.flatMap (·.ids)

section Divided

variable [Divisors α]

theorem sit_eq {c : Container α} {columns : Nat} {cellWidth cellHeight : α} (h : 0 < columns)
    (slot : Nat) (node : Node α) : sit c columns cellWidth cellHeight slot node =
      .ok { node with
        x :=
  c.x + padding + ((slot % columns : Nat) : α) * cellWidth + (cellWidth - node.width) / 2.0
        y := c.y + padding + ((slot / columns : Nat) : α) * cellHeight +
          (cellHeight - node.height) / 2.0 } := by
  rw [sit, remainder_eq h, ok_bind, quotient_eq h, ok_bind, ratio_eq Divisors.two, ok_bind,
    ratio_eq Divisors.two]
  rfl

/-- A container owns and seats the nodes that it claims. -/
theorem own_seatAll (c : Container α) (claimed : List String) (nodes : List (Node α))
    (hnodup : claimed.Nodup) (hknown : ∀ id ∈ claimed, id ∈ nodes.map (·.id)) :
    ∃ owned, own c (positions (nodes.map (·.id)) claimed) nodes = .ok owned ∧
      seatAll c (positions (nodes.map (·.id)) claimed) owned =
        .ok (seated [⟨c, claimed⟩] nodes) := by
  have hplaces : (positions (nodes.map (·.id)) claimed).Nodup := nodup_positions hnodup
  have hlt : ∀ i ∈ positions (nodes.map (·.id)) claimed, i < nodes.length := by
    intro i hi
    simpa using lt_length_of_mem_positions hi
  have hlength := length_positions hknown
  have hseat := scatter_seat ⟨c, claimed⟩ hknown
  dsimp only at hseat
  refine ⟨_, own_eq hplaces hlt, ?_⟩
  rw [seatAll]
  generalize positions (nodes.map (·.id)) claimed = places at hplaces hlt hlength hseat ⊢
  by_cases hempty : places = []
  · subst hempty
    rw [scatter_nil] at hseat ⊢
    rw [← hseat]
    rfl
  · have hpos : 0 < places.length := List.length_pos_iff.mpr hempty
    have hcolumns := ceilSqrt_pos hpos
    have hrows : 0 < rowsFor places.length (ceilSqrt places.length) :=
      Nat.lt_of_le_of_lt (Nat.zero_le _) (lt_rowsFor hcolumns hpos)
    have hnot : ¬places.isEmpty = true := by rwa [List.isEmpty_iff]
    rw [if_neg hnot]
    dsimp only
    rw [rows_eq hcolumns, ok_bind, ratio_eq (Divisors.count _ hcolumns), ok_bind,
      ratio_eq (Divisors.count _ hrows), ok_bind,
      updateAll_eq hplaces (by simpa [length_scatter] using hlt) fun slot node _ =>
        sit_eq hcolumns slot node,
      scatter_scatter, ← hseat]
    rw [hlength]
    rfl

theorem shelveAll_eq (shelves : Shelves α) (sizes : List (α × α)) (hcolumns : 0 < shelves.columns)
    (taken : List String) (index : Nat) (containers : List (Container α)) (nodes : List (Node α))
    (hsizes : sizes.drop index = sizesOf containers) :
    shelveAll shelves sizes (nodes.map (·.id)) index containers nodes
      (flags (nodes.map (·.id)) taken) =
      .ok (shelves.putAll index containers,
        seated (claimsOf shelves (nodes.map (·.id)) taken index containers) nodes,
        flags (nodes.map (·.id))
          (takenBy taken (claimsOf shelves (nodes.map (·.id)) taken index containers))) := by
  induction containers generalizing taken index nodes with
  | nil =>
    have hnone : claimsOf shelves (nodes.map (·.id)) taken index [] = [] := rfl
    rw [hnone, seated_nil, takenBy, List.flatMap_nil, List.append_nil]
    rfl
  | cons c rest ih =>
    have hsize : sizes[index]? =
        some (containerWidth c.children.length, containerHeight c.children.length) := by
      have hfirst := congrArg List.head? hsizes
      rwa [List.head?_drop] at hfirst
    have hrest : sizes.drop (index + 1) = sizesOf rest := by
      have htail := congrArg List.tail hsizes
      rwa [List.tail_drop] at htail
    generalize hids : nodes.map (·.id) = ids
    have hknown : ∀ id ∈ claimedIds ids taken c.children, id ∈ nodes.map (·.id) := by
      intro id hid
      rw [hids]
      exact (mem_claimedIds.mp hid).2.1
    obtain ⟨owned, hown, hseat⟩ :=
      own_seatAll (shelves.put index c) (claimedIds ids taken c.children) nodes
      (nodup_claimedIds ids taken c.children) hknown
    rw [hids] at hown hseat
    have hlater := ih (taken ++ claimedIds ids taken c.children) (index + 1)
      (seated [⟨shelves.put index c, claimedIds ids taken c.children⟩] nodes) hrest
    rw [map_id_seated, hids] at hlater
    rw [shelveAll, shelve_eq hcolumns hsize, ok_bind]
    have htake : (shelves.put index c).children.foldlM (take ids) (flags ids taken, []) = _ :=
      foldlM_take ids taken c.children
    have hapart : ∀ id ∈ claimedIds ids taken c.children,
        ∀ other ∈ claimsOf shelves ids (taken ++ claimedIds ids taken c.children) (index + 1) rest,
          id ∉ other.ids := by
      intro id hid other hother hmem
      exact not_taken hother hmem (List.mem_append_right taken hid)
    have htogether :=
      seated_seated ⟨shelves.put index c, claimedIds ids taken c.children⟩ hapart nodes
    rw [htake, ok_bind]
    dsimp only
    rw [hown, ok_bind, hseat, ok_bind, hlater, ok_bind, htogether, claimsOf_cons, takenBy, takenBy,
      List.flatMap_cons, List.append_assoc]
    rfl

end Divided

end Seats

end ArchDiagram.Layout.Guarded
