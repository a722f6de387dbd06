import ArchDiagram.Proofs.Text.Phrase
import ArchDiagram.Text.Case

namespace ArchDiagram.Text

section Lower

theorem lowerChar_lineFeed : lowerChar '\n' = ['\n'] := by decide

theorem isCased_lineFeed : isCased '\n' = false := by decide

theorem isCaseIgnorable_lineFeed : isCaseIgnorable '\n' = false := by decide

/-- A search for a letter stops at a line feed. -/
theorem reachesCased_append (s t : List Char) : reachesCased (s ++ '\n' :: t) = reachesCased s := by
  have hstop : (s ++ '\n' :: t).dropWhile isCaseIgnorable =
      s.dropWhile isCaseIgnorable ++ '\n' :: t := by
    have htail : ('\n' :: t).dropWhile isCaseIgnorable = '\n' :: t := by
      rw [List.dropWhile_cons_of_neg (by simp [isCaseIgnorable_lineFeed])]
    rw [List.dropWhile_append, htail]
    split_ifs with h
    · rw [List.isEmpty_iff.mp h, List.nil_append]
    · rfl
  rw [reachesCased, reachesCased, hstop]
  cases s.dropWhile isCaseIgnorable with
  | nil => exact isCased_lineFeed
  | cons c rest => rfl

/-- What stands before a line feed does not change the case of what stands behind it. -/
theorem lowerAfter_lineFeed (front before t : List Char) :
    lowerAfter (front ++ '\n' :: before) t = lowerAfter front t := by
  induction t generalizing front with
  | nil => rfl
  | cons c t ih =>
    have hnext : lowerAfter (c :: (front ++ '\n' :: before)) t = lowerAfter (c :: front) t :=
      ih (c :: front)
    simp only [lowerAfter, reachesCased_append, hnext]

theorem lowerAfter_append (before s t : List Char) :
    lowerAfter before (s ++ '\n' :: t) = lowerAfter before s ++ '\n' :: lowerCase t := by
  induction s generalizing before with
  | nil =>
    have hbehind : lowerAfter ('\n' :: before) t = lowerCase t := lowerAfter_lineFeed [] before t
    change lowerChar '\n' ++ lowerAfter ('\n' :: before) t = '\n' :: lowerCase t
    rw [lowerChar_lineFeed, hbehind]
    rfl
  | cons c s ih =>
    simp only [List.cons_append, lowerAfter, reachesCased_append, ih, List.append_assoc]

/-- Lower case of both texts. -/
theorem lowerCase_append (s t : List Char) :
    lowerCase (s ++ '\n' :: t) = lowerCase s ++ '\n' :: lowerCase t :=
  lowerAfter_append [] s t

-- The sigma ends a word in the first line and begins one in the second line.
example : lowerCase "ΑΣ\nΣΑ".toList = "ας\nσα".toList := by decide +kernel

end Lower

section Phrases

variable {phrase : List Char} {gap : Char} {s t : List Char}

/-- A phrase that lacks a character ends before it. -/
theorem prefix_append_iff (h : gap ∉ phrase) : phrase <+: s ++ gap :: t ↔ phrase <+: s := by
  constructor
  · intro hp
    have hs : s <+: s ++ gap :: t := List.prefix_append _ _
    have hlength : phrase.length ≤ s.length := by
      by_contra hlong
      rw [Nat.not_le] at hlong
      have hlonger : s ++ [gap] <+: phrase := by
        refine List.prefix_of_prefix_length_le ⟨t, by simp⟩ hp ?_
        simp only [List.length_append, List.length_singleton]
        omega
      exact h (hlonger.subset (by simp))
    exact List.prefix_of_prefix_length_le hp hs hlength
  · intro hp
    exact hp.trans (List.prefix_append _ _)

variable (hgap : isAlphanumeric gap = false)
include hgap

/-- A gap behind an occurrence counts as much as the end of the text. -/
theorem any_head?_drop_append {n : Nat} (h : n ≤ s.length) :
    ((s ++ gap :: t).drop n).head?.any isAlphanumeric = (s.drop n).head?.any isAlphanumeric := by
  rw [List.drop_append_of_le_length h]
  cases s.drop n with
  | nil => simp [hgap]
  | cons c rest => rfl

/-- A gap before the search counts as much as the start of the text. -/
theorem matchesFrom_gap (phrase : List Char) (offset : Nat) (t : List Char) :
    matchesFrom phrase (some gap) offset 0 t = matchesFrom phrase none offset 0 t := by
  cases t with
  | nil => rfl
  | cons c t => simp only [matchesFrom, Option.any_some, Option.any_none, hgap]

/-- The search in the first text ends at the gap, as no occurrence reaches over it, and begins anew
behind it. -/
theorem matchesFrom_append (hphrase : gap ∉ phrase) (hne : phrase ≠ []) {before : Option Char}
    {offset skip : Nat} (hskip : skip ≤ s.length) :
    matchesFrom phrase before offset skip (s ++ gap :: t) =
      matchesFrom phrase before offset skip s ++
      matchesFrom phrase none (offset + byteLength s + gap.utf8Size) 0 t := by
  induction s generalizing before offset skip with
  | nil =>
    obtain rfl : skip = 0 := Nat.le_zero.mp hskip
    have hother : ¬phrase.isPrefixOf (gap :: t) = true := by
      intro hp
      have hnil : phrase <+: [] :=
        (prefix_append_iff (s := []) hphrase).mp (List.isPrefixOf_iff_prefix.mp hp)
      exact hne (List.prefix_nil.mp hnil)
    rw [List.nil_append, matchesFrom_other hother, matchesFrom_gap hgap]
    rfl
  | cons c s ih =>
    have honward {n : Nat} (hn : n ≤ s.length) :
        matchesFrom phrase (some c) (offset + c.utf8Size) n (s ++ gap :: t) =
          matchesFrom phrase (some c) (offset + c.utf8Size) n s ++
            matchesFrom phrase none (offset + byteLength (c :: s) + gap.utf8Size) 0 t := by
      rw [ih hn, byteLength, Nat.add_assoc offset]
    have hsame : phrase.isPrefixOf (c :: (s ++ gap :: t)) = phrase.isPrefixOf (c :: s) := by
      rw [Bool.eq_iff_iff, List.isPrefixOf_iff_prefix, List.isPrefixOf_iff_prefix]
      exact prefix_append_iff (s := c :: s) hphrase
    rw [List.length_cons] at hskip
    rw [List.cons_append]
    by_cases hs : skip = 0
    · subst hs
      by_cases hfound : phrase.isPrefixOf (c :: s) = true
      · have hlength : phrase.length ≤ (c :: s).length :=
          (List.isPrefixOf_iff_prefix.mp hfound).length_le
        have hafter : ((c :: (s ++ gap :: t)).drop phrase.length).head?.any isAlphanumeric =
            ((c :: s).drop phrase.length).head?.any isAlphanumeric :=
              any_head?_drop_append hgap hlength
        have hon := honward (n := phrase.length - 1) (by rw [List.length_cons] at hlength; omega)
        simp only [matchesFrom, ne_eq, not_true_eq_false, if_false, hsame, hfound, if_true, hafter,
          hon]
        split_ifs <;> simp
      · rw [matchesFrom_other (by rwa [hsame]), matchesFrom_other hfound]
        exact honward (Nat.zero_le _)
    · rw [matchesFrom, if_pos hs, matchesFrom, if_pos hs]
      exact honward (by omega)

omit hgap in
/-- Places behind a front are further on by its length. -/
theorem matchesFrom_add (phrase : List Char) (before : Option Char) (front offset skip : Nat)
    (s : List Char) :
    matchesFrom phrase before (front + offset) skip s =
      (matchesFrom phrase before offset skip s).map (front + ·) := by
  induction s generalizing before offset skip with
  | nil => rfl
  | cons c s ih =>
    simp only [matchesFrom, Nat.add_assoc, ih]
    split_ifs <;> simp

/-- The matches in both texts, those in the second one behind the first text and the gap. -/
theorem phraseMatches_append (hphrase : gap ∉ phrase) (s t : List Char) :
    phraseMatches (s ++ gap :: t) phrase =
      phraseMatches s phrase ++ (phraseMatches t phrase).map (byteLength s + gap.utf8Size + ·) := by
  rw [phraseMatches, phraseMatches, phraseMatches]
  by_cases hne : phrase = []
  · simp [hne]
  · have hsome : ¬phrase.isEmpty = true := by simpa using hne
    rw [if_neg hsome, if_neg hsome, if_neg hsome,
      matchesFrom_append hgap hphrase hne (Nat.zero_le _), ← matchesFrom_add, Nat.zero_add,
      Nat.add_zero]

theorem phraseCount_append (hphrase : gap ∉ phrase) (s t : List Char) :
    phraseCount (s ++ gap :: t) phrase = phraseCount s phrase + phraseCount t phrase := by
  rw [phraseCount, phraseMatches_append hgap hphrase, List.length_append, List.length_map]
  rfl

end Phrases

end ArchDiagram.Text
