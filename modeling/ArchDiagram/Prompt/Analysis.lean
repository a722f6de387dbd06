import ArchDiagram.Prompt.Grouping
import ArchDiagram.Prompt.Relationship

namespace ArchDiagram.Prompt

/-- How many components and relationships there are. -/
inductive Complexity
  | simple
  | moderate
  | complex
  | veryComplex
deriving DecidableEq, Repr

namespace Complexity

def all : List Complexity := [.simple, .moderate, .complex, .veryComplex]

def name : Complexity → String
  | .simple => "simple"
  | .moderate => "moderate"
  | .complex => "complex"
  | .veryComplex => "very-complex"

def ofCount (n : Nat) : Complexity :=
  if n ≤ 4 then .simple else if n ≤ 10 then .moderate else if n ≤ 20 then .complex
  else .veryComplex

end Complexity

inductive Scale
  | small
  | medium
  | large
  | enterprise
deriving DecidableEq, Repr

namespace Scale

def all : List Scale := [.small, .medium, .large, .enterprise]

def name : Scale → String
  | .small => "small"
  | .medium => "medium"
  | .large => "large"
  | .enterprise => "enterprise"

/-- The class of a score: components, and each phrase for size twice. -/
def ofScore (n : Nat) : Scale :=
  if n ≤ 5 then .small else if n ≤ 11 then .medium else if n ≤ 19 then .large else .enterprise

end Scale

structure Density (α : Type) where
  /-- Components against the most there can be. -/
  component : α
  /-- Relationships against all pairs of components. -/
  connection : α
  averageDegree : α

structure Analysis (α : Type) where
  pattern : Pattern
  confidence : α
  flow : Flow
  complexity : Complexity
  scale : Scale
  entities : List Entity
  relationships : List (Relationship α)
  grouping : Grouping
  density : Density α

variable {α : Type} [Scalar α]

def Density.ofCounts (entities relationships : Nat) : Density α :=
  let n := (entities : α)
  let links := (relationships : α)
  let pairs := n * (n - 1.0) / 2.0
  { component := Scalar.clampUnit (n / (maxEntities : α))
    connection := if entities < 2 then 0.0 else Scalar.clampUnit (links / pairs)
    averageDegree := if entities = 0 then 0.0 else 2.0 * links / n }

def Analysis.empty : Analysis α :=
  { pattern := .general
    confidence := 0.0
    flow := Pattern.naturalFlow .general
    complexity := .simple
    scale := .small
    entities := []
    relationships := []
    grouping := {}
    density := ⟨0.0, 0.0, 0.0⟩ }

/-- The direction whose phrase stands first in a text in lower case; of phrases at one place the
first in the table. -/
def explicitFlow? (lower : List Char) : Option Flow :=
  let found := flowTerms.filterMap fun term =>
    (Text.phraseMatches lower term.1.toList).head?.map fun start => (start, term.2)
  (found.foldl (fun best next =>
    match best with
    | some b => if next.1 < b.1 then some next else some b
    | none => some next) (none : Option (Nat × Flow))).map (·.2)

/-- Reads a description. -/
def analyze (text : String) : Analysis α :=
  let lower := Text.lowerCase text.toList
  let best := bestPattern lower
  let mentions := mentions lower
  let entities := entities mentions
  let relationships := relationships lower mentions entities
  let large := allOccurrences lower scaleTerms
  { pattern := best.1
    confidence := confidence best.2
    flow := (explicitFlow? lower).getD best.1.naturalFlow
    complexity := .ofCount (entities.length + relationships.length)
    scale := .ofScore (2 * large + entities.length)
    entities
    relationships
    grouping := grouping lower
    density := .ofCounts entities.length relationships.length }

end ArchDiagram.Prompt
