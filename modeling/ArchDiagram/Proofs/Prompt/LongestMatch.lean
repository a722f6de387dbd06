import ArchDiagram.Proofs.Prompt.Candidates
import ArchDiagram.Proofs.Prompt.Mention

namespace ArchDiagram.Prompt

open Text (IsStretch)

section Sorting

variable {β : Type} {le : β → β → Bool} {l : List β} {i : Nat} {x : β}

/-- What a stable sort puts before an element is not above it, and stood before it if it is not
below it. -/
theorem exists_sorted_split (htrans : ∀ a b c, le a b = true → le b c = true → le a c = true)
    (htotal : ∀ a b, (le a b || le b a) = true) (hx : l[i]? = some x) :
    ∃ before after, l.mergeSort le = before ++ x :: after ∧
      ∀ y ∈ before, ∃ j, l[j]? = some y ∧ le y x = true ∧ (le x y = true → j < i) := by
  -- the elements are sorted together with their places
  have hperm := List.mergeSort_perm l.zipIdx (List.zipIdxLE le)
  have hsorted :=
    List.pairwise_mergeSort (List.zipIdxLE_trans htrans) (List.zipIdxLE_total htotal) l.zipIdx
  have hnodup :=
    (hperm.map (·.2)).nodup_iff.mpr (by rw [List.zipIdx_map_snd]; exact List.nodup_range')
  have hplain : (l.zipIdx.mergeSort (List.zipIdxLE le)).map (·.1) = l.mergeSort le :=
    List.mergeSort_zipIdx
  obtain ⟨front, back, hsplit⟩ :=
    List.append_of_mem (hperm.mem_iff.mpr (List.mk_mem_zipIdx_iff_getElem?.mpr hx))
  have hfront : ∀ item ∈ front, l[item.2]? = some item.1 := by
    intro item hi
    exact List.mk_mem_zipIdx_iff_getElem?.mp (hperm.mem_iff.mp (by simp [hsplit, hi]))
  rw [hsplit] at hsorted hplain hnodup
  rw [List.map_append, List.map_cons] at hplain hnodup
  refine ⟨_, _, hplain.symm, fun y hy => ?_⟩
  obtain ⟨⟨y, j⟩, hj, rfl⟩ := List.mem_map.mp hy
  have hle : List.zipIdxLE le (y, j) (x, i) = true :=
    (List.pairwise_append.mp hsorted).2.2 _ hj _ List.mem_cons_self
  have hne : j ≠ i :=
    fun he => (List.nodup_append.mp hnodup).2.2 j (List.mem_map_of_mem hj) i (by simp) he
  simp only [List.zipIdxLE] at hle
  split_ifs at hle with hyx hxy
  · exact ⟨j, hfront _ hj, hyx, fun _ => Nat.lt_of_le_of_ne (by simpa using hle) hne⟩
  · exact ⟨j, hfront _ hj, hyx, fun h => absurd h hxy⟩

end Sorting

section Order

variable {a b : Mention}

theorem before_iff :
    Mention.before a b = true ↔ b.size < a.size ∨ (a.size = b.size ∧ a.start ≤ b.start) := by
  simp [Mention.before]

theorem before_trans (a b c : Mention) (hab : Mention.before a b = true)
    (hbc : Mention.before b c = true) :
    Mention.before a c = true := by
  rw [before_iff] at hab hbc ⊢
  omega

theorem before_total (a b : Mention) : (Mention.before a b || Mention.before b a) = true := by
  rw [Bool.or_eq_true, before_iff, before_iff]
  omega

theorem overlaps_iff : Mention.overlaps a b = true ↔ a.start < b.stop ∧ b.start < a.stop := by
  simp [Mention.overlaps]

end Order

section Choice

variable {lower : List Char}

/-- The mentions before they are put in the order of their places. -/
def chosen (lower : List Char) : List Mention :=
  settled Mention.overlaps ((candidates lower).mergeSort Mention.before)

theorem mentions_perm (lower : List Char) : (mentions lower).Perm (chosen lower) :=
  List.mergeSort_perm _ _

theorem mem_candidates_of_mem_mentions {m : Mention} (h : m ∈ mentions lower) :
    m ∈ candidates lower :=
  List.mem_append.mpr (mem_mentions h)

/-- A mention ends before the next one begins. -/
theorem pairwise_mentions (lower : List Char) :
    (mentions lower).Pairwise fun a b => a.start < b.start ∧ a.stop ≤ b.start := by
  have hsorted : (mentions lower).Pairwise fun a b => decide (a.start ≤ b.start) = true :=
    List.pairwise_mergeSort (fun a b c => by simpa using Nat.le_trans)
      (fun a b => by simpa using Nat.le_total a.start b.start) (chosen lower)
  have hapart : (mentions lower).Pairwise fun a b => ¬(a.start < b.stop ∧ b.start < a.stop) := by
    rw [(mentions_perm lower).pairwise_iff (by intro a b h; omega)]
    refine (settled_apart Mention.overlaps _).imp fun {a b} h => ?_
    rw [← Bool.not_eq_true, overlaps_iff] at h
    omega
  refine (hsorted.and hapart).imp_of_mem fun {a b} ha hb h => ?_
  have hsome := (stretch_of_mem_candidates (mem_candidates_of_mem_mentions ha)).2
  have hsome' := (stretch_of_mem_candidates (mem_candidates_of_mem_mentions hb)).2
  have hle : a.start ≤ b.start := by simpa using h.1
  omega

/-- A candidate that is left out overlaps a mention that is preferred to it. -/
theorem exists_preferred {i : Nat} {c : Mention} (hc : (candidates lower)[i]? = some c)
    (h : c ∉ mentions lower) :
    ∃ j m, (candidates lower)[j]? = some m ∧ m ∈ mentions lower ∧ m.start < c.stop ∧
    c.start < m.stop ∧
      (c.size < m.size ∨ (c.size = m.size ∧ m.start < c.start) ∨
        (m.start = c.start ∧ m.stop = c.stop ∧ j < i)) := by
  obtain ⟨front, back, hsorted, hfront⟩ := exists_sorted_split before_trans before_total hc
  have hchosen : chosen lower = settled Mention.overlaps (front ++ c :: back) := by
    rw [chosen, hsorted]
  rcases mem_settled_or_clash Mention.overlaps front back c with hin | ⟨m, hm, hover⟩
  · exact absurd ((mentions_perm lower).mem_iff.mpr (hchosen ▸ hin)) h
  · obtain ⟨j, hj, hle, hfirst⟩ := hfront m ((settled_sublist _ _).subset hm)
    have hmention : m ∈ mentions lower := by
      rw [(mentions_perm lower).mem_iff, hchosen]
      exact (settled_grows _ front (c :: back)).subset hm
    rw [overlaps_iff] at hover
    refine ⟨j, m, hj, hmention, hover.2, hover.1, ?_⟩
    rw [before_iff] at hle hfirst
    have hc := (stretch_of_mem_candidates (List.mem_of_getElem? hc)).2
    have hm := (stretch_of_mem_candidates (List.mem_of_getElem? hj)).2
    simp only [Mention.size] at hle hfirst ⊢
    omega

/-- Mentions that overlap are the same. -/
theorem eq_of_overlap {a b : Mention} (ha : a ∈ mentions lower) (hb : b ∈ mentions lower)
    (hab : a.start < b.stop) (hba : b.start < a.stop) : a = b := by
  obtain ⟨i, hi, rfl⟩ := List.getElem_of_mem ha
  obtain ⟨j, hj, rfl⟩ := List.getElem_of_mem hb
  have hpairs := List.pairwise_iff_getElem.mp (pairwise_mentions lower)
  rcases Nat.lt_trichotomy i j with hlt | heq | hgt
  · have hapart := (hpairs i j hi hj hlt).2
    omega
  · simp only [heq]
  · have hapart := (hpairs j i hj hi hgt).2
    omega

/-- A phrase of the vocabulary is preferred to a noun that is the same stretch. -/
theorem isTermMention_of_mem {m c : Mention} (hm : m ∈ mentions lower) (hc : IsTermMention lower c)
    (hstart : c.start = m.start) (hstop : c.stop = m.stop) : IsTermMention lower m := by
  have hsome := hc.stretch.2
  by_cases hin : c ∈ mentions lower
  · rwa [eq_of_overlap hm hin (by omega) (by omega)]
  · obtain ⟨i, hi⟩ := List.mem_iff_getElem?.mp (mem_termMentions_iff.mpr hc)
    have hlt : i < (termMentions lower).length := (List.getElem?_eq_some_iff.mp hi).1
    have hcand : (candidates lower)[i]? = some c := by
      rw [candidates, List.getElem?_append_left hlt, hi]
    obtain ⟨j, other, hj, hother, hover, hover', hbetter⟩ := exists_preferred hcand hin
    obtain rfl := eq_of_overlap hm hother (by omega) (by omega)
    simp only [Mention.size] at hbetter
    have hfirst : j < i := by omega
    rw [candidates, List.getElem?_append_left (by omega)] at hj
    exact mem_termMentions_iff.mp (List.mem_of_getElem? hj)

end Choice

section Cuts

variable {lower : List Char}

/-- The stretches that are cut out of a description: its words, what stands between neighbouring
words, and what stands between neighbouring mentions. -/
def cuts (lower : List Char) : List Text.Span :=
  Text.words lower ++
    ((Text.words lower).zip (Text.words lower).tail).map
      (fun pair => ⟨pair.1.stop, pair.2.start⟩) ++
    ((mentions lower).zip (mentions lower).tail).map fun pair => ⟨pair.1.stop, pair.2.start⟩

theorem stretch_between_mentions {one other : Mention}
    (h : (one, other) ∈ (mentions lower).zip (mentions lower).tail) :
    IsStretch lower one.stop other.start := by
  obtain ⟨before, after, hsplit⟩ := Text.mem_zip_tail_iff.mp h
  have hone : one ∈ mentions lower := by simp [hsplit]
  have hother : other ∈ mentions lower := by simp [hsplit]
  have hpairs := pairwise_mentions lower
  rw [hsplit, List.pairwise_append, List.pairwise_cons] at hpairs
  exact ⟨(hpairs.2.1.1 other List.mem_cons_self).2,
    (stretch_of_mem_candidates (mem_candidates_of_mem_mentions hone)).1.stop,
    (stretch_of_mem_candidates (mem_candidates_of_mem_mentions hother)).1.start⟩

theorem stretch_of_mem_cuts {span : Text.Span} (h : span ∈ cuts lower) :
    IsStretch lower span.start span.stop := by
  rw [cuts, List.mem_append, List.mem_append] at h
  rcases h with (h | h) | h
  · obtain ⟨front, w, back, hcut, -⟩ := Text.mem_words_iff.mp h
    exact hcut.isStretch
  · obtain ⟨⟨first, second⟩, hpair, rfl⟩ := List.mem_map.mp h
    obtain ⟨before, one, gap, other, after, hn, rfl, rfl⟩ := Text.mem_neighbors_iff.mp hpair
    have hcut : Text.Cut lower _ _ (before ++ one) gap (other ++ after) :=
      ⟨by simp [hn.text], rfl, rfl⟩
    exact hcut.isStretch
  · obtain ⟨⟨one, other⟩, hpair, rfl⟩ := List.mem_map.mp h
    exact stretch_between_mentions hpair

end Cuts

/-- Mentions stand one behind the other, and each is a candidate: a phrase of the vocabulary or a
word with a system noun. A candidate that is no mention overlaps one that is preferred to it: a
longer one, one of the same length that starts earlier, or one that is the same stretch and was
found earlier, as phrases of the vocabulary are. All that is cut out of the text goes from one place
between characters to another that is not before it. -/
theorem mentions_longest_first (lower : List Char) :
    (mentions lower).Pairwise (fun a b => a.start < b.start ∧ a.stop ≤ b.start) ∧
    (∀ m ∈ mentions lower, IsStretch lower m.start m.stop ∧
      (IsTermMention lower m ∨ IsNounMention lower m)) ∧
    (∀ c, c ∈ candidates lower ↔ IsTermMention lower c ∨ IsNounMention lower c) ∧
    (∀ (i : Nat) (c : Mention), (candidates lower)[i]? = some c → c ∉ mentions lower →
      ∃ (j : Nat) (m : Mention), (candidates lower)[j]? = some m ∧ m ∈ mentions lower ∧
        m.start < c.stop ∧ c.start < m.stop ∧
        (c.size < m.size ∨ (c.size = m.size ∧ m.start < c.start) ∨
          (m.start = c.start ∧ m.stop = c.stop ∧ j < i))) ∧
    (∀ m ∈ mentions lower, ∀ c, IsTermMention lower c → c.start = m.start → c.stop = m.stop →
      IsTermMention lower m) ∧
    ∀ span ∈ cuts lower, IsStretch lower span.start span.stop := by
  refine ⟨pairwise_mentions lower, fun m hm => ?_, fun c => mem_candidates_iff,
    fun i c => exists_preferred,
    fun m hm c => isTermMention_of_mem hm, fun span => stretch_of_mem_cuts⟩
  have hcandidate := mem_candidates_of_mem_mentions hm
  exact ⟨(stretch_of_mem_candidates hcandidate).1, mem_candidates_iff.mp hcandidate⟩

end ArchDiagram.Prompt
