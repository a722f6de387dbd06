import Mathlib.Algebra.BigOperators.Group.List.Basic
import ArchDiagram.Proofs.Text.Joined
import ArchDiagram.Prompt.Grouping

namespace ArchDiagram.Prompt

section Vocabulary

theorem lineFeed_not_mem_keywords (pattern : Pattern) :
    ∀ keyword ∈ keywords pattern, '\n' ∉ keyword.1.toList := by
  cases pattern <;> decide +kernel

theorem lineFeed_not_mem_containerTerms : ∀ term ∈ containerTerms, '\n' ∉ term.1.toList := by
  decide +kernel

theorem lineFeed_not_mem_layerTerms : ∀ term ∈ layerTerms, '\n' ∉ term.toList := by decide +kernel

end Vocabulary

variable (s t : List Char)

theorem occurrences_append {phrase : String} (h : '\n' ∉ phrase.toList) :
    occurrences (s ++ '\n' :: t) phrase = occurrences s phrase + occurrences t phrase :=
  Text.phraseCount_append (by decide) h s t

theorem allOccurrences_append {phrases : List String}
    (h : ∀ phrase ∈ phrases, '\n' ∉ phrase.toList) :
    allOccurrences (s ++ '\n' :: t) phrases =
      allOccurrences s phrases + allOccurrences t phrases := by
  have heach : ∀ phrase ∈ phrases,
      occurrences (s ++ '\n' :: t) phrase = occurrences s phrase + occurrences t phrase :=
    fun phrase hm => occurrences_append s t (h phrase hm)
  rw [allOccurrences, List.map_congr_left heach]
  exact List.sum_map_add

theorem scoreLower_append (pattern : Pattern) :
    scoreLower pattern (s ++ '\n' :: t) = scoreLower pattern s + scoreLower pattern t := by
  have heach : ∀ keyword ∈ keywords pattern,
      keyword.2 * occurrences (s ++ '\n' :: t) keyword.1 =
        keyword.2 * occurrences s keyword.1 + keyword.2 * occurrences t keyword.1 := by
    intro keyword hk
    rw [occurrences_append s t (lineFeed_not_mem_keywords pattern keyword hk), Nat.mul_add]
  rw [scoreLower, List.map_congr_left heach]
  exact List.sum_map_add

theorem kindCount_append (kind : ContainerKind) :
    kindCount (s ++ '\n' :: t) kind = kindCount s kind + kindCount t kind := by
  apply allOccurrences_append
  intro phrase hm
  obtain ⟨term, hterm, rfl⟩ := List.mem_map.mp hm
  exact lineFeed_not_mem_containerTerms term (List.mem_of_mem_filter hterm)

theorem layerMentions_append :
    (grouping (s ++ '\n' :: t)).layerMentions =
      (grouping s).layerMentions + (grouping t).layerMentions :=
  allOccurrences_append s t lineFeed_not_mem_layerTerms

theorem count?_grouping (lower : List Char) (kind : ContainerKind) :
    (grouping lower).count? kind = if kindCount lower kind =
      0 then none else some (kindCount lower kind) := rfl

/-- A kind that one text or both speak of has the sum of its counts, and no other kind has a
count. -/
theorem count?_append (kind : ContainerKind) :
    (grouping (s ++ '\n' :: t)).count? kind =
      Option.merge (· + ·) ((grouping s).count? kind) ((grouping t).count? kind) := by
  rw [count?_grouping, count?_grouping, count?_grouping, kindCount_append]
  by_cases hs : kindCount s kind = 0
  · by_cases ht : kindCount t kind = 0 <;> simp [hs, ht]
  · by_cases ht : kindCount t kind = 0 <;> simp [hs, ht]

/-- Scores, and in lower case the counts of boxes and layers, are those of the lines taken
together. -/
theorem counts_append :
    (∀ pattern, score pattern (s ++ '\n' :: t) = score pattern s + score pattern t) ∧
      (∀ kind, (grouping (Text.lowerCase (s ++ '\n' :: t))).count? kind =
        Option.merge (· + ·) ((grouping (Text.lowerCase s)).count? kind)
          ((grouping (Text.lowerCase t)).count? kind)) ∧
      (grouping (Text.lowerCase (s ++ '\n' :: t))).layerMentions =
        (grouping (Text.lowerCase s)).layerMentions +
          (grouping (Text.lowerCase t)).layerMentions := by
  simp only [score, Text.lowerCase_append]
  exact ⟨fun pattern => scoreLower_append _ _ pattern, fun kind => count?_append _ _ kind,
    layerMentions_append _ _⟩

end ArchDiagram.Prompt
