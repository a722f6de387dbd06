import ArchDiagram.Prompt.Vocabulary
import ArchDiagram.Text.Case
import ArchDiagram.Text.Phrase

namespace ArchDiagram.Prompt

-- A sum begins with the numeral zero here, whatever other zeros are imported.
local instance countZero : Zero Nat := Zero.ofOfNat0

/-- Occurrences of a phrase of the vocabulary in a text in lower case. -/
def occurrences (lower : List Char) (phrase : String) : Nat :=
  Text.phraseCount lower phrase.toList

/-- Occurrences of some phrases of the vocabulary, taken together. -/
def allOccurrences (lower : List Char) (phrases : List String) : Nat :=
  (phrases.map (occurrences lower)).sum

/-- The sum of the weights of all keywords found in a text in lower case. -/
def scoreLower (pattern : Pattern) (lower : List Char) : Nat :=
  ((keywords pattern).map fun keyword => keyword.2 * occurrences lower keyword.1).sum

/-- The score of a style for a description. -/
def score (pattern : Pattern) (text : List Char) : Nat :=
  scoreLower pattern (Text.lowerCase text)

/-- The styles that keywords can speak for: all but the general one. -/
def scoredPatterns : List Pattern := Pattern.all.filter (· ≠ .general)

/-- The style with the highest score, the earliest of several; general when all scores are zero. -/
def bestPattern (lower : List Char) : Pattern × Nat :=
  scoredPatterns.foldl (fun best pattern =>
    let score := scoreLower pattern lower
    if best.2 < score then (pattern, score) else best) (.general, 0)

variable {α : Type} [Scalar α]

/-- A score of ten or more is full confidence. -/
def confidence (score : Nat) : α := Scalar.clampUnit ((score : α) / 10.0)

end ArchDiagram.Prompt
