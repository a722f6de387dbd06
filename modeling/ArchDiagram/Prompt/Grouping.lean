import ArchDiagram.Prompt.Score

namespace ArchDiagram.Prompt

/-- Counts of the kinds of boxes, words for layers, and how deep boxes stand inside each other. A
kind that is not spoken of has no count. -/
structure Grouping where
  count? : ContainerKind → Option Nat := fun _ => none
  layerMentions : Nat := 0
  depth : Nat := 0

namespace Grouping

attribute [local instance] countZero

/-- The kinds with their counts, in the order of the kinds. -/
def counts (g : Grouping) : List (ContainerKind × Nat) :=
  ContainerKind.all.filterMap fun kind => (g.count? kind).map fun n => (kind, n)

def total (g : Grouping) : Nat := (g.counts.map (·.2)).sum

/-- True when the description speaks of boxes at all. -/
def isNeeded (g : Grouping) : Bool := 0 < g.total

/-- The kind with the highest count, the earliest of several. -/
def dominant? (g : Grouping) : Option ContainerKind :=
  (g.counts.foldl (fun best next =>
    match best with
    | some b => if next.2 ≤ b.2 then some b else some next
    | none => some next) (none : Option (ContainerKind × Nat))).map (·.1)

end Grouping

/-- Mentions of a kind of box in a text in lower case. -/
def kindCount (lower : List Char) (kind : ContainerKind) : Nat :=
  allOccurrences lower ((containerTerms.filter (·.2 = kind)).map (·.1))

def maxDepth : Nat := 3

/-- The boxes of a description in lower case. Boxes inside each other are as deep as there are
kinds of them, up to the maximum. -/
def grouping (lower : List Char) : Grouping :=
  let count? (kind : ContainerKind) : Option Nat :=
    let n := kindCount lower kind
    if n = 0 then none else some n
  let kinds := (ContainerKind.all.filter fun kind => (count? kind).isSome).length
  let nested := nestingTerms.any fun term => Text.hasPhrase lower term.toList
  { count?
    layerMentions := allOccurrences lower layerTerms
    depth := if kinds = 0 then 0 else if nested then min kinds maxDepth else 1 }

end ArchDiagram.Prompt
