import Mathlib.Data.List.Sort
import ArchDiagram.Proofs.Text.Words

namespace ArchDiagram.Text

section Order

variable {phrase s : List Char} {offset skip n : Nat} {word : Span}

theorem le_of_mem_matchesFrom {before : Option Char}
    (h : n ∈ matchesFrom phrase before offset skip s) :
    offset ≤ n := by
  induction s generalizing before offset skip with
  | nil => contradiction
  | cons c s ih =>
    have honward {k : Nat} (hk : n ∈ matchesFrom phrase (some c) (offset + c.utf8Size) k s) :
        offset ≤ n :=
      (Nat.le_add_right _ _).trans (ih hk)
    simp only [matchesFrom] at h
    split_ifs at h
    · exact honward h
    · exact honward h
    · rcases List.mem_cons.mp h with rfl | h
      · exact Nat.le_refl n
      · exact honward h
    · exact honward h

theorem sorted_matchesFrom (phrase : List Char) (before : Option Char) (offset skip : Nat)
    (s : List Char) :
    (matchesFrom phrase before offset skip s).Pairwise (· < ·) := by
  induction s generalizing before offset skip with
  | nil => exact List.Pairwise.nil
  | cons c s ih =>
    simp only [matchesFrom]
    split_ifs
    · exact ih _ _ _
    · exact ih _ _ _
    · rw [List.pairwise_cons]
      refine ⟨fun n hn => ?_, ih _ _ _⟩
      have hle := le_of_mem_matchesFrom hn
      have hsize := c.utf8Size_pos
      omega
    · exact ih _ _ _

theorem sorted_phraseMatches (text phrase : List Char) :
    (phraseMatches text phrase).Pairwise (· < ·) := by
  rw [phraseMatches]
  split_ifs
  · exact List.Pairwise.nil
  · exact sorted_matchesFrom _ _ _ _ _

/-- Behind a gap the next word is further on. -/
theorem lt_start_of_mem_wordsFrom (h : ∀ c ∈ s.head?, isAlphanumeric c = false)
    (hm : word ∈ wordsFrom offset s) : offset < word.start := by
  obtain ⟨before, later, hwords⟩ := List.append_of_mem hm
  obtain ⟨front, w, back, rfl, hw, rfl, -⟩ := exists_word hwords
  have hfront : front ≠ [] := by
    rintro rfl
    obtain ⟨c, w, rfl⟩ := List.exists_cons_of_ne_nil hw.nonempty
    have hc := h c rfl
    rw [hw.letters c List.mem_cons_self] at hc
    contradiction
  have hpos := byteLength_pos hfront
  show offset < offset + byteLength front
  omega

theorem separate_wordsFrom (offset : Nat) (s : List Char) :
    (wordsFrom offset s).Pairwise fun a b => a.stop < b.start := by
  generalize hwords : wordsFrom offset s = spans
  induction spans generalizing offset s with
  | nil => exact List.Pairwise.nil
  | cons word later ih =>
    obtain ⟨gap, w, back, -, -, -, -, hback, rfl, hlater⟩ := exists_gap_word hwords
    rw [List.pairwise_cons]
    constructor
    · intro next hnext
      rw [hlater] at hnext
      exact lt_start_of_mem_wordsFrom hback hnext
    · exact ih _ _ hlater.symm

theorem start_le_stop (hm : word ∈ words s) : word.start ≤ word.stop := by
  obtain ⟨before, inside, after, hcut, -⟩ := mem_words_iff.mp hm
  exact hcut.isStretch.start_le_stop

end Order

section Agreement

variable {phrase text : List Char} {start : Nat}

/-- Where such a phrase overlaps itself, a letter or digit of its own stands before the second
occurrence. -/
theorem isRigid_of_letters (h : ∀ c ∈ phrase, isAlphanumeric c = true) : IsRigid phrase := by
  intro n hlt hpos _
  have hne : phrase.take n ≠ [] := by
    rw [ne_eq, List.take_eq_nil_iff, not_or]
    exact ⟨hpos.ne', List.ne_nil_of_length_pos (Nat.zero_lt_of_lt hlt)⟩
  rw [List.getLast?_eq_some_getLast hne, Option.any_some]
  apply h
  exact List.mem_of_mem_take (List.getLast_mem hne)

theorem occursAt_iff_word (hne : phrase ≠ []) (h : ∀ c ∈ phrase, isAlphanumeric c = true) :
    OccursAt text phrase start ↔
      ∃ word ∈ words text, slice text word.start word.stop = phrase ∧ word.start = start := by
  constructor
  · rintro ⟨before, after, htext, hstart, hbound⟩
    have hcut : Cut text (byteLength before) (byteLength (before ++ phrase)) before phrase after :=
      ⟨htext, rfl, rfl⟩
    refine ⟨⟨byteLength before, byteLength (before ++ phrase)⟩, ?_, hcut.slice_eq, hstart⟩
    exact mem_words_iff.mpr ⟨before, phrase, after, hcut, hne, h, hbound⟩
  · rintro ⟨word, hm, hslice, hstart⟩
    obtain ⟨before, inside, after, hcut, hword⟩ := mem_words_iff.mp hm
    obtain rfl : inside = phrase := hcut.slice_eq.symm.trans hslice
    exact ⟨before, after, hcut.text, hcut.start.trans hstart, hword.bounded⟩

/-- The starts of the words that are the phrase. -/
def wordStarts (text phrase : List Char) : List Nat :=
  ((words text).filter fun word => slice text word.start word.stop = phrase).map (·.start)

theorem mem_wordStarts_iff : start ∈ wordStarts text phrase ↔
    ∃ word ∈ words text, slice text word.start word.stop = phrase ∧ word.start = start := by
  simp only [wordStarts, List.mem_map, List.mem_filter, decide_eq_true_eq, and_assoc]

theorem sorted_wordStarts (text phrase : List Char) :
    (wordStarts text phrase).Pairwise (· < ·) := by
  have hstarts : (words text).Pairwise fun a b => a.start < b.start := by
    apply (separate_wordsFrom 0 text).imp_of_mem
    intro a b ha hb hlt
    exact (start_le_stop ha).trans_lt hlt
  rw [wordStarts, List.pairwise_map]
  exact hstarts.filter _

theorem phraseMatches_eq_wordStarts (hne : phrase ≠ []) (h : ∀ c ∈ phrase, isAlphanumeric c = true)
    (text : List Char) : phraseMatches text phrase = wordStarts text phrase := by
  apply (sorted_phraseMatches text phrase).eq_of_mem_iff (sorted_wordStarts text phrase)
  intro start
  rw [mem_phraseMatches_iff (isRigid_of_letters h) hne, occursAt_iff_word hne h, mem_wordStarts_iff]

end Agreement

/-- A phrase of letters and digits is found at the starts of the words equal to it, in order. The
words of a text are its stretches of letters and digits that cannot be made longer, in order and
apart. -/
theorem phraseMatches_words {phrase : List Char} (hne : phrase ≠ [])
    (h : ∀ c ∈ phrase, isAlphanumeric c = true) (text : List Char) :
    phraseMatches text phrase =
        ((words text).filter fun word => slice text word.start word.stop = phrase).map (·.start) ∧
      ((words text).Pairwise fun a b => a.stop < b.start) ∧
      ∀ word, word ∈ words text ↔
        ∃ before inside after, Cut text word.start word.stop before inside after ∧
        IsWord before inside after :=
  ⟨phraseMatches_eq_wordStarts hne h text, separate_wordsFrom 0 text, fun _ => mem_words_iff⟩

/-- The first occurrence is rejected and overlaps the second one, which is rejected too. -/
theorem phraseMatches_words_banana :
    "ana".toList ≠ [] ∧ (∀ c ∈ "ana".toList, isAlphanumeric c = true) ∧
      phraseMatches "banana ana".toList "ana".toList =
        ((words "banana ana".toList).filter fun word =>
          slice "banana ana".toList word.start word.stop = "ana".toList).map (·.start) ∧
      phraseMatches "banana ana".toList "ana".toList = [7] := by
  have hne : "ana".toList ≠ [] := by decide +kernel
  have hletters : ∀ c ∈ "ana".toList, isAlphanumeric c = true :=
    List.all_eq_true.mp (by decide +kernel)
  exact ⟨hne, hletters, (phraseMatches_words hne hletters _).1, by decide +kernel⟩

end ArchDiagram.Text
