import ArchDiagram.Proofs.Prompt.Best
import ArchDiagram.Proofs.Prompt.Counts
import ArchDiagram.Proofs.Prompt.Score

namespace ArchDiagram.Prompt

namespace Grouping

section Counts

variable {g : Grouping} {kind other : ContainerKind} {n m : Nat}

theorem mem_counts_iff : (kind, n) ∈ g.counts ↔ g.count? kind = some n := by
  rw [counts, List.mem_filterMap]
  constructor
  · rintro ⟨other, -, hcount⟩
    obtain ⟨m, hm, he⟩ := Option.map_eq_some_iff.mp hcount
    obtain ⟨rfl, rfl⟩ := Prod.mk.inj he
    exact hm
  · intro h
    exact ⟨kind, kind.mem_all, by rw [h]; rfl⟩

theorem counts_eq_nil_iff : g.counts = [] ↔ ∀ kind, g.count? kind = none := by
  rw [List.eq_nil_iff_forall_not_mem]
  constructor
  · intro h kind
    apply Option.eq_none_iff_forall_ne_some.mpr
    intro n hn
    exact h (kind, n) (mem_counts_iff.mpr hn)
  · rintro h ⟨kind, n⟩ hm
    rw [mem_counts_iff, h kind] at hm
    contradiction

theorem sorted_counts (g : Grouping) : g.counts.Pairwise fun a b => a.1.ctorIdx < b.1.ctorIdx := by
  have hall : ContainerKind.all.Pairwise fun a b => a.ctorIdx < b.ctorIdx := by decide
  rw [counts, List.pairwise_filterMap]
  apply hall.imp
  intro a b hlt x hx y hy
  obtain ⟨n, -, rfl⟩ := Option.map_eq_some_iff.mp hx
  obtain ⟨m, -, rfl⟩ := Option.map_eq_some_iff.mp hy
  exact hlt

theorem length_counts (g : Grouping) :
    g.counts.length = (ContainerKind.all.filter fun kind => (g.count? kind).isSome).length := by
  rw [counts, List.length_filterMap_eq_countP, List.countP_eq_length_filter]
  simp only [Option.isSome_map]

end Counts

section Dominant

variable {g : Grouping} {kind other : ContainerKind} {n m : Nat}

/-- The earliest of the kinds with the greatest count. -/
structure IsDominant (g : Grouping) (kind : ContainerKind) (n : Nat) : Prop where
  counted : g.count? kind = some n
  greatest : ∀ other m, g.count? other = some m → m ≤ n
  earliest : ∀ other m, other.ctorIdx < kind.ctorIdx → g.count? other = some m → m < n

theorem IsDominant.unique (h : g.IsDominant kind n) (h' : g.IsDominant other m) : kind = other := by
  rcases Nat.lt_trichotomy kind.ctorIdx other.ctorIdx with hlt | heq | hlt
  · have hless := h'.earliest kind n hlt h.counted
    have hmost := h.greatest other m h'.counted
    omega
  · rw [← ContainerKind.ofNat_ctorIdx kind, heq, ContainerKind.ofNat_ctorIdx]
  · have hless := h.earliest other m hlt h'.counted
    have hmost := h'.greatest kind n h.counted
    omega

theorem IsDominant.of_firstMax (h : IsFirstMax (·.2) g.counts (kind, n)) : g.IsDominant kind n := by
  obtain ⟨before, after, hsplit, hbefore, hafter⟩ := h
  have hsorted := g.sorted_counts
  rw [hsplit, List.pairwise_append, List.pairwise_cons] at hsorted
  have hplaces {other : ContainerKind} {m : Nat} (hm : g.count? other = some m) :
      (other, m) ∈ before ∨ (other, m) = (kind, n) ∨ (other, m) ∈ after := by
    have hcounted := mem_counts_iff.mpr hm
    rwa [hsplit, List.mem_append, List.mem_cons] at hcounted
  refine ⟨mem_counts_iff.mp (by simp [hsplit]), fun other m hm => ?_, fun other m hlt hm => ?_⟩
  · rcases hplaces hm with hb | he | ha
    · exact (hbefore _ hb).le
    · exact (Prod.mk.inj he).2.le
    · exact hafter _ ha
  · rcases hplaces hm with hb | he | ha
    · exact hbefore _ hb
    · rw [(Prod.mk.inj he).1] at hlt
      exact absurd hlt (Nat.lt_irrefl _)
    · exact absurd hlt (Nat.not_lt_of_lt (hsorted.2.1.1 _ ha))

/-- Takes an item when there is none yet or it has more than the one that is held. -/
def hold {β : Type} (best : Option (β × Nat)) (next : β × Nat) : Option (β × Nat) :=
  match best with
  | some b => if next.2 ≤ b.2 then some b else some next
  | none => some next

theorem dominant?_eq (g : Grouping) : g.dominant? = (g.counts.foldl hold none).map (·.1) := by
  rw [dominant?]
  congr 2
  funext best next
  cases best <;> rfl

theorem foldl_hold {β : Type} (items : List (β × Nat)) (start : β × Nat) :
    items.foldl hold (some start) =
      some (items.foldl (fun best x => if best.2 < x.2 then (x, x.2) else best)
        (start, start.2)).1 := by
  induction items generalizing start with
  | nil => rfl
  | cons x items ih =>
    rw [List.foldl_cons, List.foldl_cons, hold]
    by_cases hx : x.2 ≤ start.2
    · rw [if_pos hx, if_neg (Nat.not_lt.mpr hx)]
      exact ih start
    · rw [if_neg hx, if_pos (Nat.lt_of_not_le hx)]
      exact ih x

theorem exists_firstMax {β : Type} {items : List (β × Nat)} (h : items ≠ []) :
    ∃ best, items.foldl hold none = some best ∧ IsFirstMax (·.2) items best := by
  obtain ⟨first, items, rfl⟩ := List.exists_cons_of_ne_nil h
  refine ⟨_, foldl_hold items first, ?_⟩
  rcases foldl_firstMax (·.2) items first first.2 with ⟨hbest, hmost⟩ | ⟨hmax, hvalue, hmore⟩
  · rw [hbest]
    exact ⟨[], items, rfl, by simp, hmost⟩
  · rw [hvalue] at hmore
    exact hmax.cons hmore

theorem dominant?_cases (g : Grouping) : g.counts = [] ∧ g.dominant? = none ∨
    ∃ kind n, g.dominant? = some kind ∧ g.IsDominant kind n := by
  by_cases h : g.counts = []
  · exact Or.inl ⟨h, by rw [dominant?_eq, h]; rfl⟩
  · obtain ⟨⟨kind, n⟩, hbest, hmax⟩ := exists_firstMax h
    exact Or.inr ⟨kind, n, by rw [dominant?_eq, hbest]; rfl, IsDominant.of_firstMax hmax⟩

theorem dominant?_eq_none_iff : g.dominant? = none ↔ ∀ kind, g.count? kind = none := by
  rw [← counts_eq_nil_iff]
  rcases g.dominant?_cases with ⟨hnil, hnone⟩ | ⟨kind, n, hsome, hdominant⟩
  · exact iff_of_true hnone hnil
  · refine iff_of_false (by simp [hsome]) fun hnil => ?_
    have hm := mem_counts_iff.mpr hdominant.counted
    rw [hnil] at hm
    contradiction

theorem dominant?_eq_some_iff : g.dominant? = some kind ↔ ∃ n, g.IsDominant kind n := by
  constructor
  · intro h
    rcases g.dominant?_cases with ⟨-, hnone⟩ | ⟨other, n, hsome, hdominant⟩
    · rw [hnone] at h
      contradiction
    · obtain rfl : other = kind := Option.some.inj (hsome.symm.trans h)
      exact ⟨n, hdominant⟩
  · rintro ⟨n, hdominant⟩
    rcases g.dominant?_cases with ⟨hnil, -⟩ | ⟨other, m, hsome, hother⟩
    · have hm := mem_counts_iff.mpr hdominant.counted
      rw [hnil] at hm
      contradiction
    · rw [hsome, hother.unique hdominant]

end Dominant

end Grouping

section Estimate

variable (lower : List Char)

/-- The words for layers are the phrases for tiers in another order. -/
theorem perm_layerTerms : layerTerms.Perm ((containerTerms.filter (·.2 = .tier)).map (·.1)) := by
  decide +kernel

theorem layerMentions_eq : (grouping lower).layerMentions = kindCount lower .tier :=
  (perm_layerTerms.map (occurrences lower)).sum_nat

variable {lower} {kind : ContainerKind} {n : Nat}

theorem count?_pos (h : (grouping lower).count? kind = some n) : 0 < n := by
  rw [count?_grouping] at h
  split_ifs at h with hzero
  obtain rfl := Option.some.inj h
  exact Nat.pos_of_ne_zero hzero

theorem isNeeded_iff (lower : List Char) :
    (grouping lower).isNeeded = true ↔ (grouping lower).counts ≠ [] := by
  have hzero : (grouping lower).total = 0 ↔ (grouping lower).counts = [] := by
    rw [Grouping.total, List.sum_eq_zero_iff_forall_eq_nat]
    constructor
    · intro h
      apply List.eq_nil_iff_forall_not_mem.mpr
      rintro ⟨kind, n⟩ hm
      have hpos := count?_pos (Grouping.mem_counts_iff.mp hm)
      have hnone : n = 0 := h n (List.mem_map_of_mem hm)
      omega
    · intro h
      simp [h]
  rw [Grouping.isNeeded, decide_eq_true_eq, Nat.pos_iff_ne_zero, ne_eq, hzero]

theorem depth_eq (lower : List Char) : (grouping lower).depth =
    if (grouping lower).counts.length = 0 then 0
    else if nestingTerms.any fun term => Text.hasPhrase lower term.toList then
      min (grouping lower).counts.length maxDepth
    else 1 := by
  rw [Grouping.length_counts]
  rfl

end Estimate

/-- The estimate agrees with itself: what is counted is there, layers are tiers, and boxes stand
inside each other only as far as there are kinds of them. -/
structure Grouping.Consistent (g : Grouping) : Prop where
  positive : ∀ kind n, g.count? kind = some n → 0 < n
  layers : g.layerMentions = (g.count? .tier).getD 0
  flat : g.depth = 0 ↔ g.isNeeded = false
  deep : g.isNeeded = true → 1 ≤ g.depth ∧ g.depth ≤ 3 ∧ g.depth ≤ g.counts.length

theorem consistent_grouping (lower : List Char) : (grouping lower).Consistent := by
  have hneeded := isNeeded_iff lower
  have hdepth := depth_eq lower
  rw [← List.length_pos_iff] at hneeded
  rw [maxDepth] at hdepth
  refine ⟨fun _ _ => count?_pos, ?_, ?_, ?_⟩
  · rw [layerMentions_eq, count?_grouping]
    split_ifs with hzero
    · exact hzero
    · rfl
  · rw [← Bool.not_eq_true, hneeded]
    split_ifs at hdepth <;> omega
  · intro hneed
    have hpos := hneeded.mp hneed
    split_ifs at hdepth <;> omega

/-- The boxes of every description are estimated consistently, and whatever the counts are, the
dominant kind is the earliest of those with the greatest count. -/
theorem grouping_dominant (lower : List Char) :
    (grouping lower).Consistent ∧
    ∀ g : Grouping, (g.dominant? = none ↔ ∀ kind, g.count? kind = none) ∧
      ∀ kind, g.dominant? = some kind ↔ ∃ n, g.IsDominant kind n :=
  ⟨consistent_grouping lower, fun _ =>
    ⟨Grouping.dominant?_eq_none_iff, fun _ => Grouping.dominant?_eq_some_iff⟩⟩

end ArchDiagram.Prompt
