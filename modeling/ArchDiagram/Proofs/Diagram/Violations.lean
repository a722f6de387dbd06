import Mathlib.Data.List.Range
import ArchDiagram.Proofs.Diagram.Consistency

namespace ArchDiagram.Diagram

/-- A position at which an id is given or referred to. The source of a link is its place zero, and
the target is its place one. -/
inductive Site
  | node (i : Nat)
  | endpoint (link place : Nat)
  | child (container place : Nat)

/-- Nodes come first, then links, then containers. -/
def Site.Before : Site → Site → Prop
  | .node i, .node j => i < j
  | .endpoint i k, .endpoint j l | .child i k, .child j l => i < j ∨ i = j ∧ k < l
  | .node _, .endpoint _ _ | .node _, .child _ _ | .endpoint _ _, .child _ _ => True
  | _, _ => False

variable {α : Type}

/-- What is wrong at a site: an id that an earlier node has, or one that no node has. -/
inductive Broken (d : Diagram α) : Site → Violation → Prop
  | node {i j : Nat} {id : String} (here : d.nodeIds[i]? = some id) (earlier : j < i)
      (there : d.nodeIds[j]? = some id) : Broken d (.node i) (.duplicateNode id)
  | endpoint {i k : Nat} {link : Link} {id : String} (item : d.links[i]? = some link)
      (place : [link.source, link.target][k]? = some id) (unknown : id ∉ d.nodeIds) :
      Broken d (.endpoint i k) (.unknownEndpoint link.id id)
  | child {i k : Nat} {container : Container α} {id : String}
      (item : d.containerList[i]? = some container)
      (place : container.children[k]? = some id) (unknown : id ∉ d.nodeIds) :
      Broken d (.child i k) (.unknownChild container.id id)

theorem pairwise_zipIdx {β : Type} (items : List β) (start : Nat) :
    (items.zipIdx start).Pairwise fun a b => a.2 < b.2 := by
  have h := List.pairwise_lt_range' (s := start) (n := items.length)
  rwa [← List.zipIdx_map_snd start items, List.pairwise_map] at h

section Repeats

/-- The ids that an earlier node has, with their sites. -/
def repeats (ids : List String) : List (Site × Violation) :=
  ids.zipIdx.filterMap fun p => if p.1 ∈
    ids.take p.2 then some (.node p.2, .duplicateNode p.1) else none

theorem repeatedIds_eq (seen ids : List String) :
    repeatedIds seen ids =
      (ids.zipIdx.filter fun p => p.1 ∈ seen ∨ p.1 ∈ ids.take p.2).map (·.1) := by
  induction ids generalizing seen with
  | nil => rfl
  | cons id rest ih =>
    -- an id is known behind the first one exactly if it is the first one or was known already
    have hrest (known : List String) (h : ∀ x, x ∈ known ↔ x = id ∨ x ∈ seen) :
        ((rest.zipIdx 1).filter fun p => p.1 ∈ seen ∨ p.1 ∈ (id :: rest).take p.2).map (·.1) =
          repeatedIds known rest := by
      rw [ih, List.zipIdx_succ, List.filter_map, List.map_map]
      have hsame : ((fun p : String × Nat => decide (p.1 ∈ seen ∨ p.1 ∈ (id :: rest).take p.2)) ∘
          fun p : String × Nat => (p.1, p.2 + 1)) =
            fun p => decide (p.1 ∈ known ∨ p.1 ∈ rest.take p.2) := by
        funext p
        simp only [Function.comp_apply, List.take_succ_cons, List.mem_cons, h, decide_eq_decide]
        tauto
      rw [hsame]
      rfl
    rw [List.zipIdx_cons, repeatedIds]
    by_cases hid : id ∈ seen
    · have hseen (x : String) : x ∈ seen ↔ x = id ∨ x ∈ seen := by
        refine ⟨Or.inr, ?_⟩
        rintro (rfl | hx)
        · exact hid
        · exact hx
      rw [if_pos (by simpa using hid), List.filter_cons_of_pos (by simp [hid]), List.map_cons,
        hrest seen hseen]
    · rw [if_neg (by simpa using hid), List.filter_cons_of_neg (by simp [hid]),
        hrest (id :: seen) fun x => List.mem_cons]

theorem map_snd_repeats (ids : List String) :
    (repeats ids).map (·.2) = (repeatedIds [] ids).map .duplicateNode := by
  rw [repeatedIds_eq, repeats, List.map_filterMap, List.map_map]
  induction ids.zipIdx with
  | nil => rfl
  | cons p rest ih => by_cases h : p.1 ∈ ids.take p.2 <;> simp_all

theorem mem_repeats_iff {ids : List String} {site : Site} {v : Violation} :
    (site, v) ∈ repeats ids ↔
      ∃ i j id, ids[i]? = some id ∧ j < i ∧ ids[j]? = some id ∧ site = .node i ∧
      v = .duplicateNode id := by
  rw [repeats, List.mem_filterMap]
  constructor
  · rintro ⟨⟨id, i⟩, hm, hv⟩
    split_ifs at hv with hearlier
    obtain ⟨rfl, rfl⟩ := Prod.mk.inj (Option.some.inj hv)
    obtain ⟨j, hj⟩ := List.mem_iff_getElem?.mp hearlier
    rw [List.getElem?_take] at hj
    split_ifs at hj with hlt
    exact ⟨i, j, id, List.mk_mem_zipIdx_iff_getElem?.mp hm, hlt, hj, rfl, rfl⟩
  · rintro ⟨i, j, id, hi, hlt, hj, rfl, rfl⟩
    have hearlier : id ∈ ids.take i := by
      apply List.mem_iff_getElem?.mpr
      exact ⟨j, by rw [List.getElem?_take, if_pos hlt, hj]⟩
    exact ⟨(id, i), List.mk_mem_zipIdx_iff_getElem?.mpr hi, if_pos hearlier⟩

theorem pairwise_repeats (ids : List String) :
    (repeats ids).Pairwise fun a b => a.1.Before b.1 := by
  rw [repeats, List.pairwise_filterMap]
  apply (pairwise_zipIdx ids 0).imp
  rintro ⟨id, i⟩ ⟨id', j⟩ hlt a ha b hb
  split_ifs at ha hb
  obtain rfl := Option.some.inj ha
  obtain rfl := Option.some.inj hb
  exact hlt

end Repeats

section Dangling

variable {β : Type} {ids : List String} {site : Nat → Nat → Site} {refs : β → List String}
  {report : β → String → Violation} {items : List β}

/-- The references of some items that are no node's id, with their sites. -/
def dangling (ids : List String) (site : Nat → Nat → Site) (refs : β → List String)
    (report : β → String → Violation) (items : List β) : List (Site × Violation) :=
  items.zipIdx.flatMap fun item => (refs item.1).zipIdx.filterMap fun ref =>
    if ref.1 ∈ ids then none else some (site item.2 ref.2, report item.1 ref.1)

theorem map_snd_dangling : (dangling ids site refs report items).map (·.2) =
    items.flatMap fun item => (refs item).filterMap fun ref =>
      if ids.contains ref then none else some (report item ref) := by
  have hitem (item : β) (i : Nat) : ((refs item).zipIdx.filterMap fun ref =>
      if ref.1 ∈ ids then none else some (site i ref.2, report item ref.1)).map (·.2) =
        (refs item).filterMap fun ref =>
          if ids.contains ref then none else some (report item ref) := by
    rw [List.map_filterMap]
    conv_rhs => rw [← List.zipIdx_map_fst 0 (refs item), List.filterMap_map]
    congr 1
    funext ref
    by_cases h : ref.1 ∈ ids <;> simp [h]
  rw [dangling, List.map_flatMap]
  simp only [hitem]
  conv_rhs => rw [← List.zipIdx_map_fst 0 items, List.flatMap_map]

theorem mem_dangling_iff {s : Site} {v : Violation} : (s, v) ∈ dangling ids site refs report items ↔
    ∃ i k item ref, items[i]? = some item ∧ (refs item)[k]? = some ref ∧ ref ∉ ids ∧ s = site i k ∧
      v = report item ref := by
  simp only [dangling, List.mem_flatMap, List.mem_filterMap, Prod.exists,
    List.mk_mem_zipIdx_iff_getElem?]
  constructor
  · rintro ⟨item, i, hi, ref, k, hk, hv⟩
    split_ifs at hv with hknown
    obtain ⟨rfl, rfl⟩ := Prod.mk.inj (Option.some.inj hv)
    exact ⟨i, k, item, ref, hi, hk, hknown, rfl, rfl⟩
  · rintro ⟨i, k, item, ref, hi, hk, hknown, rfl, rfl⟩
    exact ⟨item, i, hi, ref, k, hk, if_neg hknown⟩

theorem pairwise_dangling (h : ∀ i k j l, i < j ∨ i = j ∧ k < l → (site i k).Before (site j l)) :
    (dangling ids site refs report items).Pairwise fun a b => a.1.Before b.1 := by
  have hsite {item : β × Nat} {s : Site} {v : Violation}
    (hm : (s, v) ∈ (refs item.1).zipIdx.filterMap fun ref =>
      if ref.1 ∈ ids then none else some (site item.2 ref.2, report item.1 ref.1)) :
        ∃ k, s = site item.2 k := by
    obtain ⟨ref, -, hv⟩ := List.mem_filterMap.mp hm
    split_ifs at hv
    exact ⟨ref.2, (Prod.mk.inj (Option.some.inj hv)).1.symm⟩
  rw [dangling, List.pairwise_flatMap]
  constructor
  · rintro ⟨item, i⟩ -
    rw [List.pairwise_filterMap]
    apply (pairwise_zipIdx (refs item) 0).imp
    rintro ⟨ref, k⟩ ⟨ref', l⟩ hlt a ha b hb
    split_ifs at ha hb
    obtain rfl := Option.some.inj ha
    obtain rfl := Option.some.inj hb
    exact h i k i l (Or.inr ⟨rfl, hlt⟩)
  · apply (pairwise_zipIdx items 0).imp
    rintro item item' hlt ⟨s, v⟩ ha ⟨s', v'⟩ hb
    obtain ⟨k, rfl⟩ := hsite ha
    obtain ⟨l, rfl⟩ := hsite hb
    exact h _ k _ l (Or.inl hlt)

end Dangling

/-- Every violation of a diagram with its site. -/
def found (d : Diagram α) : List (Site × Violation) :=
  repeats d.nodeIds ++
    (dangling d.nodeIds .endpoint (fun link : Link => [link.source, link.target])
        (fun link => .unknownEndpoint link.id) d.links ++
      dangling d.nodeIds .child (fun container : Container α => container.children)
        (fun container => .unknownChild container.id) d.containerList)

theorem violations_eq_map_found (d : Diagram α) : d.violations = d.found.map (·.2) := by
  rw [found, List.map_append, List.map_append, map_snd_repeats, map_snd_dangling, map_snd_dangling,
    ← List.append_assoc]
  rfl

theorem mem_found_iff {d : Diagram α} {site : Site} {v : Violation} :
    (site, v) ∈ d.found ↔ d.Broken site v := by
  rw [found, List.mem_append, List.mem_append, mem_repeats_iff, mem_dangling_iff, mem_dangling_iff]
  constructor
  · rintro (⟨i, j, id, hi, hlt, hj, rfl, rfl⟩ | ⟨i, k, link, id, hi, hk, hid, rfl, rfl⟩ |
      ⟨i, k, container, id, hi, hk, hid, rfl, rfl⟩)
    · exact .node hi hlt hj
    · exact .endpoint hi hk hid
    · exact .child hi hk hid
  · intro h
    cases h with
    | node hi hlt hj => exact Or.inl ⟨_, _, _, hi, hlt, hj, rfl, rfl⟩
    | endpoint hi hk hid => exact Or.inr (Or.inl ⟨_, _, _, _, hi, hk, hid, rfl, rfl⟩)
    | child hi hk hid => exact Or.inr (Or.inr ⟨_, _, _, _, hi, hk, hid, rfl, rfl⟩)

theorem pairwise_found (d : Diagram α) : d.found.Pairwise fun a b => a.1.Before b.1 := by
  rw [found, List.pairwise_append, List.pairwise_append]
  refine ⟨pairwise_repeats _,
    ⟨pairwise_dangling fun _ _ _ _ h => h, pairwise_dangling fun _ _ _ _ h => h, ?_⟩, ?_⟩
  · rintro ⟨s, v⟩ hs ⟨s', v'⟩ hs'
    obtain ⟨i, k, -, -, -, -, -, rfl, -⟩ := mem_dangling_iff.mp hs
    obtain ⟨j, l, -, -, -, -, -, rfl, -⟩ := mem_dangling_iff.mp hs'
    trivial
  · rintro ⟨s, v⟩ hs ⟨s', v'⟩ hs'
    obtain ⟨i, -, -, -, -, -, rfl, -⟩ := mem_repeats_iff.mp hs
    rcases List.mem_append.mp hs' with hs' | hs'
    · obtain ⟨j, l, -, -, -, -, -, rfl, -⟩ := mem_dangling_iff.mp hs'
      trivial
    · obtain ⟨j, l, -, -, -, -, -, rfl, -⟩ := mem_dangling_iff.mp hs'
      trivial

/-- A diagram is accepted exactly if its nodes have different ids and all references are to nodes.
The violations are those of the broken sites, each once and in the order of the sites. -/
theorem violations_of_sites (d : Diagram α) :
    (d.validate = .ok () ↔ d.nodeIds.Nodup ∧
      (∀ link ∈ d.links, link.source ∈ d.nodeIds ∧ link.target ∈ d.nodeIds) ∧
      ∀ container ∈ d.containerList, ∀ child ∈ container.children, child ∈ d.nodeIds) ∧
    ∃ found : List (Site × Violation), (found.Pairwise fun a b => a.1.Before b.1) ∧
      (∀ site v, (site, v) ∈ found ↔ d.Broken site v) ∧ d.violations = found.map (·.2) := by
  constructor
  · rw [validate_eq_ok_iff, violations_eq_nil_iff]
  · exact ⟨d.found, d.pairwise_found, fun _ _ => mem_found_iff, d.violations_eq_map_found⟩

end ArchDiagram.Diagram
