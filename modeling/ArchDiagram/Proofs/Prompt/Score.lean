import Mathlib.Algebra.Order.BigOperators.Group.List
import Mathlib.Algebra.Order.Group.Nat
import ArchDiagram.Proofs.Text.Phrase
import ArchDiagram.Prompt.Score

namespace ArchDiagram.Prompt

open Text (OccursAt IsRigid hasPhrase)

variable {lower phrase : List Char} {pattern : Pattern} {keyword : String × Nat}

/-- No keyword is empty, and each has a weight. Only one ends as it begins behind a hyphen. -/
theorem rigid_keywords (pattern : Pattern) : ∀ keyword ∈ keywords pattern,
    keyword.1.toList ≠ [] ∧ 0 < keyword.2 ∧
      (IsRigid keyword.1.toList ↔ keyword.1 ≠ "peer-to-peer") := by
  cases pattern <;> decide +kernel

theorem occurrences_pos_iff {word : String} :
    0 < occurrences lower word ↔ hasPhrase lower word.toList = true := by
  rw [Text.hasPhrase_eq_true_iff]
  exact List.length_pos_iff_exists_mem

theorem le_scoreLower (hk : keyword ∈ keywords pattern) (lower : List Char) :
    keyword.2 * occurrences lower keyword.1 ≤ scoreLower pattern lower :=
  List.le_sum_of_mem (List.mem_map_of_mem hk)

/-- A phrase that is found stands word-bounded in the text. The converse holds in all texts for
rigid phrases, and for no others. A keyword that stands word-bounded always adds to the score of its
style, but for the one that is not rigid. -/
theorem phrases_found (hne : phrase ≠ []) :
    (∀ text, hasPhrase text phrase = true → ∃ start, OccursAt text phrase start) ∧
      ((∀ text, (∃ start, OccursAt text phrase start) → hasPhrase text phrase = true) ↔
        IsRigid phrase) ∧
      ∀ pattern, ∀ keyword ∈ keywords pattern,
        (∀ lower, (∃ start, OccursAt lower keyword.1.toList start) →
          0 < keyword.2 * occurrences lower keyword.1 ∧
            keyword.2 * occurrences lower keyword.1 ≤ scoreLower pattern lower) ↔
        keyword.1 ≠ "peer-to-peer" := by
  refine ⟨fun text hfound => ?_, Text.isRigid_iff hne, fun pattern keyword hk => ?_⟩
  · obtain ⟨start, hm⟩ := Text.hasPhrase_eq_true_iff.mp hfound
    exact ⟨start, Text.occursAt_of_mem_phraseMatches hm⟩
  · obtain ⟨hnonempty, hweight, hrigid⟩ := rigid_keywords pattern keyword hk
    rw [← hrigid, ← Text.isRigid_iff hnonempty]
    refine forall₂_congr fun lower _ => ?_
    rw [← occurrences_pos_iff, Nat.mul_pos_iff_of_pos_left hweight]
    exact and_iff_left (le_scoreLower hk lower)

theorem phrases_found_peerToPeer :
    "peer-to-peer".toList ≠ [] ∧
      (∀ text, hasPhrase text "peer-to-peer".toList = true →
        ∃ start, OccursAt text "peer-to-peer".toList start) ∧
      ((∀ text, (∃ start, OccursAt text "peer-to-peer".toList start) →
          hasPhrase text "peer-to-peer".toList = true) ↔ IsRigid "peer-to-peer".toList) ∧
      ∀ pattern, ∀ keyword ∈ keywords pattern,
        (∀ lower, (∃ start, OccursAt lower keyword.1.toList start) →
          0 < keyword.2 * occurrences lower keyword.1 ∧
            keyword.2 * occurrences lower keyword.1 ≤ scoreLower pattern lower) ↔
        keyword.1 ≠ "peer-to-peer" := by
  have hne : "peer-to-peer".toList ≠ [] := by decide +kernel
  exact ⟨hne, phrases_found hne⟩

/-- The phrase stands at the end of the text behind a hyphen. The occurrence before it, which a
letter precedes, is cut out first and takes its first word along. -/
theorem peerToPeer_missed :
    ¬∀ text phrase : List Char, phrase ≠ [] →
      (hasPhrase text phrase = true ↔ ∃ start, OccursAt text phrase start) := by
  intro h
  have hoccurs : OccursAt "superpeer-to-peer-to-peer".toList "peer-to-peer".toList 13 := by
    refine ⟨"superpeer-to-".toList, [], by decide +kernel, by decide +kernel, ?_, by simp⟩
    exact Text.not_any_iff.mp (by decide +kernel)
  have hfound :=
    (h "superpeer-to-peer-to-peer".toList "peer-to-peer".toList (by decide)).mpr ⟨13, hoccurs⟩
  exact absurd hfound (by decide +kernel)

end ArchDiagram.Prompt
