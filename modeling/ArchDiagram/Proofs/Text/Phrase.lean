import ArchDiagram.Proofs.Text.Places
import ArchDiagram.Text.Phrase

namespace ArchDiagram.Text

/-- No letter or digit stands directly before or directly after the middle of three parts. -/
structure Bounded (before after : List Char) : Prop where
  before : ∀ c ∈ before.getLast?, isAlphanumeric c = false
  after : ∀ c ∈ after.head?, isAlphanumeric c = false

/-- The phrase stands at a place of the text, word-bounded. -/
def OccursAt (text phrase : List Char) (start : Nat) : Prop :=
  ∃ before after, text = before ++ phrase ++ after ∧ byteLength before = start ∧
  Bounded before after

/-- Where the phrase overlaps itself, the second occurrence stands directly behind a letter or
digit. -/
def IsRigid (phrase : List Char) : Prop :=
  ∀ n, n < phrase.length → 0 < n → phrase.drop n <+: phrase →
    (phrase.take n).getLast?.any isAlphanumeric = true

instance (phrase : List Char) : Decidable (IsRigid phrase) :=
  inferInstanceAs (Decidable (∀ n, n < phrase.length → _))

section Matches

variable {phrase : List Char} {skip start : Nat}

theorem not_any_iff {o : Option Char} :
    o.any isAlphanumeric = false ↔ ∀ c ∈ o, isAlphanumeric c = false := by
  cases o <;> simp

/-- A match is an occurrence, at or behind the place that the search has reached. -/
theorem occursAt_of_mem_matchesFrom (done : List Char) {rest : List Char}
    (h : start ∈ matchesFrom phrase done.getLast? (byteLength done) skip rest) :
    OccursAt (done ++ rest) phrase start := by
  induction rest generalizing done skip with
  | nil => simp [matchesFrom] at h
  | cons c rest ih =>
    have honward {n : Nat}
        (hn : start ∈ matchesFrom phrase (some c) (byteLength done + c.utf8Size) n rest) :
        OccursAt (done ++ c :: rest) phrase start := by
      have hdone : byteLength (done ++ [c]) = byteLength done + c.utf8Size := by
        simp [byteLength_append, byteLength]
      simpa using ih (done ++ [c]) (by simpa [hdone] using hn)
    simp only [matchesFrom] at h
    split_ifs at h with hskip hfound hbound
    · exact honward h
    · exact honward h
    · rcases List.mem_cons.mp h with rfl | h
      · obtain ⟨after, hafter⟩ := List.isPrefixOf_iff_prefix.mp hfound
        rw [← hafter, List.drop_left, Bool.or_eq_true, not_or, Bool.not_eq_true, Bool.not_eq_true,
          not_any_iff, not_any_iff] at hbound
        exact ⟨done, after, by rw [← hafter, List.append_assoc], rfl, ⟨hbound.1, hbound.2⟩⟩
      · exact honward h
    · exact honward h

/-- A rigid phrase does not reach into an occurrence behind it that is word-bounded. -/
theorem IsRigid.length_le {front back : List Char} (hr : IsRigid phrase) (hne : front ≠ [])
    (hfront : ∀ c ∈ front.getLast?, isAlphanumeric c = false)
    (h : phrase <+: front ++ (phrase ++ back)) :
    phrase.length ≤ front.length := by
  by_contra hlt
  rw [Nat.not_le] at hlt
  obtain ⟨later, hlater⟩ :=
    List.prefix_of_prefix_length_le (List.prefix_append _ _) h (Nat.le_of_lt hlt)
  have htake : phrase.take front.length = front := by rw [← hlater, List.take_left]
  have hdrop : phrase.drop front.length <+: phrase := by
    have hback : later <+: phrase ++ back := by
      have hboth : front ++ later <+: front ++ (phrase ++ back) := by rwa [hlater]
      exact (List.prefix_append_right_inj front).mp hboth
    have hshorter : later.length ≤ phrase.length := by
      rw [← hlater, List.length_append]
      omega
    have heq : phrase.drop front.length = later := by rw [← hlater, List.drop_left]
    rw [heq]
    exact List.prefix_of_prefix_length_le hback (List.prefix_append _ _) hshorter
  have hletter := hr front.length hlt (List.length_pos_iff.mpr hne) hdrop
  rw [htake, not_any_iff.mpr hfront] at hletter
  contradiction

/-- An occurrence is a match unless the search begins behind its place. -/
theorem mem_matchesFrom (hr : IsRigid phrase) (hne : phrase ≠ []) (done : List Char)
    {front back : List Char} (h : Bounded (done ++ front) back) (hskip : skip ≤ front.length) :
    byteLength (done ++ front) ∈
      matchesFrom phrase done.getLast? (byteLength done) skip (front ++ (phrase ++ back)) := by
  induction front generalizing done skip with
  | nil =>
    obtain rfl : skip = 0 := Nat.le_zero.mp hskip
    obtain ⟨c, rest, rfl⟩ := List.exists_cons_of_ne_nil hne
    have hfound : (c :: rest).isPrefixOf (c :: (rest ++ back)) = true := by simp
    have hafter : (c :: (rest ++ back)).drop (c :: rest).length = back := List.drop_left
    rw [List.append_nil] at h ⊢
    have hbound : ¬(done.getLast?.any isAlphanumeric || back.head?.any isAlphanumeric) = true := by
      rw [not_any_iff.mpr h.before, not_any_iff.mpr h.after]
      decide
    rw [List.nil_append, List.cons_append, matchesFrom, if_neg (by simp), if_pos hfound, hafter,
      if_neg hbound]
    exact List.mem_cons_self
  | cons d front ih =>
    have honward {n : Nat} (hn : n ≤ front.length) :
        byteLength (done ++ d :: front) ∈
          matchesFrom phrase (some d) (byteLength done + d.utf8Size) n
          (front ++ (phrase ++ back)) := by
      have hdone : byteLength (done ++ [d]) = byteLength done + d.utf8Size := by
        simp [byteLength_append, byteLength]
      simpa [hdone] using ih (done ++ [d]) (by simpa using h) hn
    rw [List.length_cons] at hskip
    rw [List.cons_append, matchesFrom]
    by_cases hs : skip = 0
    · rw [if_neg (not_not.mpr hs)]
      by_cases hfound : phrase.isPrefixOf (d :: (front ++ (phrase ++ back))) = true
      · -- the search goes on behind the match, which does not reach the occurrence
        have hlast : ∀ c ∈ (d :: front).getLast?, isAlphanumeric c = false := by
          intro c hc
          exact h.before c (by rw [List.getLast?_append, Option.mem_def.mp hc]; rfl)
        have hroom :=
          hr.length_le (List.cons_ne_nil d front) hlast (List.isPrefixOf_iff_prefix.mp hfound)
        have hon := honward (n := phrase.length - 1) (by rw [List.length_cons] at hroom; omega)
        rw [if_pos hfound]
        dsimp only
        split_ifs
        · exact hon
        · exact List.mem_cons_of_mem _ hon
      · rw [if_neg hfound]
        exact honward (Nat.zero_le _)
    · rw [if_pos hs]
      exact honward (by omega)

theorem occursAt_of_mem_phraseMatches {text : List Char} (h : start ∈ phraseMatches text phrase) :
    OccursAt text phrase start := by
  rw [phraseMatches] at h
  split_ifs at h
  · contradiction
  · exact occursAt_of_mem_matchesFrom [] h

/-- The matches of a rigid phrase are its word-bounded occurrences. -/
theorem mem_phraseMatches_iff {text : List Char} (hr : IsRigid phrase) (hne : phrase ≠ []) :
    start ∈ phraseMatches text phrase ↔ OccursAt text phrase start := by
  refine ⟨occursAt_of_mem_phraseMatches, ?_⟩
  rintro ⟨before, after, rfl, rfl, hbound⟩
  rw [phraseMatches, if_neg (by simpa using hne), List.append_assoc]
  exact mem_matchesFrom hr hne [] hbound (Nat.zero_le _)

theorem hasPhrase_eq_true_iff {text : List Char} :
    hasPhrase text phrase = true ↔ ∃ start, start ∈ phraseMatches text phrase := by
  rw [hasPhrase, Bool.not_eq_true', List.isEmpty_eq_false_iff_exists_mem]

theorem hasPhrase_iff {text : List Char} (hr : IsRigid phrase) (hne : phrase ≠ []) :
    hasPhrase text phrase = true ↔ ∃ start, OccursAt text phrase start := by
  rw [hasPhrase_eq_true_iff]
  exact exists_congr fun start => mem_phraseMatches_iff hr hne

end Matches

section Hidden

variable {phrase : List Char}

theorem matchesFrom_other {before : Option Char} {offset : Nat} {c : Char} {rest : List Char}
    (h : ¬phrase.isPrefixOf (c :: rest) = true) :
    matchesFrom phrase before offset 0 (c :: rest) =
      matchesFrom phrase (some c) (offset + c.utf8Size) 0 rest := by
  rw [matchesFrom, if_neg (not_not.mpr rfl), if_neg h]

theorem matchesFrom_rejected {before c : Char} {offset : Nat} {rest : List Char}
    (h : phrase.isPrefixOf (c :: rest) = true) (hbefore : isAlphanumeric before = true) :
    matchesFrom phrase (some before) offset 0 (c :: rest) =
      matchesFrom phrase (some c) (offset + c.utf8Size) (phrase.length - 1) rest := by
  rw [matchesFrom, if_neg (not_not.mpr rfl), if_pos h]
  simp [hbefore]

/-- A search that has to skip so much that less than the phrase is left finds nothing. -/
theorem matchesFrom_short {before : Option Char} {offset skip : Nat} {rest : List Char}
    (h : rest.length < phrase.length + skip) : matchesFrom phrase before offset skip rest = [] := by
  induction rest generalizing before offset skip with
  | nil => rfl
  | cons c rest ih =>
    rw [List.length_cons] at h
    by_cases hskip : skip = 0
    · subst hskip
      have hlonger : ¬phrase.isPrefixOf (c :: rest) = true := by
        intro hp
        have hlength := (List.isPrefixOf_iff_prefix.mp hp).length_le
        rw [List.length_cons] at hlength
        omega
      rw [matchesFrom_other hlonger]
      exact ih (by omega)
    · rw [matchesFrom, if_pos hskip]
      exact ih (by omega)

theorem exists_letter_ne_head (phrase : List Char) :
    ∃ c, isAlphanumeric c = true ∧ phrase.head? ≠ some c := by
  by_cases h : phrase.head? = some 'a'
  · exact ⟨'b', by decide, by rw [h]; decide⟩
  · exact ⟨'a', by decide, h⟩

/-- A phrase that overlaps itself behind a space or a hyphen is missed where it stands behind an
occurrence that a letter precedes: the search skips the rejected occurrence as a whole. -/
theorem exists_hidden (h : ¬IsRigid phrase) :
    ∃ text, (∃ start, OccursAt text phrase start) ∧ hasPhrase text phrase = false := by
  rw [IsRigid] at h
  push Not at h
  obtain ⟨n, hlt, hpos, hborder, hgap⟩ := h
  rw [ne_eq, Bool.not_eq_true, not_any_iff] at hgap
  obtain ⟨letter, hletter, hhead⟩ := exists_letter_ne_head phrase
  have hfront : phrase.take n ≠ [] := by
    intro he
    have hlength := congrArg List.length he
    rw [List.length_take, List.length_nil] at hlength
    omega
  have hoverlap : phrase <+: phrase.take n ++ phrase := by
    have hboth := (List.prefix_append_right_inj (phrase.take n)).mpr hborder
    rwa [List.take_append_drop] at hboth
  refine ⟨letter :: (phrase.take n ++ phrase),
    ⟨_, letter :: phrase.take n, [], by simp, rfl, ?_, by simp⟩, ?_⟩
  · intro c hc
    rw [List.getLast?_cons_of_ne_nil hfront] at hc
    exact hgap c hc
  · -- the phrase does not begin with the letter, so its first occurrence is the one behind it, and
    -- is rejected
    have hfirst : ¬phrase.isPrefixOf (letter :: (phrase.take n ++ phrase)) = true := by
      intro hp
      obtain ⟨rest, hrest⟩ := List.isPrefixOf_iff_prefix.mp hp
      obtain ⟨c, tail, rfl⟩ :=
        List.exists_cons_of_ne_nil (List.ne_nil_of_length_pos (Nat.zero_lt_of_lt hlt))
      exact hhead (congrArg some (List.cons.inj hrest).1)
    have hnone : matchesFrom phrase none 0 0 (letter :: (phrase.take n ++ phrase)) = [] := by
      obtain ⟨c, rest, hrest⟩ :=
        List.exists_cons_of_ne_nil (List.append_ne_nil_of_left_ne_nil hfront phrase)
      have hlength : rest.length + 1 = n + phrase.length := by
        rw [← List.length_cons, ← hrest, List.length_append, List.length_take,
          Nat.min_eq_left (Nat.le_of_lt hlt)]
      rw [matchesFrom_other hfirst]
      rw [hrest] at hoverlap ⊢
      rw [matchesFrom_rejected (List.isPrefixOf_iff_prefix.mpr hoverlap) hletter]
      exact matchesFrom_short (by omega)
    rw [hasPhrase, phraseMatches,
      if_neg (by simpa using List.ne_nil_of_length_pos (Nat.zero_lt_of_lt hlt)), hnone]
    rfl

/-- The search finds a phrase in every text where it stands word-bounded exactly if the phrase is
rigid. -/
theorem isRigid_iff (hne : phrase ≠ []) :
    (∀ text, (∃ start, OccursAt text phrase start) → hasPhrase text phrase = true) ↔
    IsRigid phrase := by
  constructor
  · intro h
    by_contra hloose
    obtain ⟨text, hoccurs, hmissed⟩ := exists_hidden hloose
    rw [h text hoccurs] at hmissed
    contradiction
  · exact fun hr text => (hasPhrase_iff hr hne).mpr

end Hidden

end ArchDiagram.Text
