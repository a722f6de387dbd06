import ArchDiagram.Prompt.Entity

namespace ArchDiagram.Prompt

/-- A relationship between two components, with the phrase that says so. -/
structure Relationship (α : Type) where
  source : String
  target : String
  kind : RelationKind
  strength : α
  label : String
deriving DecidableEq, Repr

/-- Characters that end a thought. -/
def isStop (c : Char) : Bool := ['.', ';', '!', '?', '\n'].contains c

/-- The first phrase of the table that stands between two mentions, unless a thought ends there. -/
def relationBetween? (between : List Char) : Option (String × RelationKind) :=
  if between.any isStop then none
  else relationTerms.find? fun term => Text.hasPhrase between term.1.toList

def idOf? (entities : List Entity) (name : String) : Option String :=
  (entities.find? (·.name == name)).map (·.id)

variable {α : Type} [Scalar α]

/-- The relationship that the text between two mentions gives to their components. -/
def relate? (lower : List Char) (entities : List Entity) (one other : Mention) :
    Option (Relationship α) := do
  let (label, kind) ← relationBetween? (Text.slice lower one.stop other.start)
  let source ← idOf? entities one.name
  let target ← idOf? entities other.name
  if source = target then none
  else some ⟨source, target, kind, kind.strength, label⟩

/-- True when two relationships join the same components in the same way. -/
def Relationship.sameAs (a b : Relationship α) : Bool :=
  a.source == b.source && a.target == b.target && a.kind == b.kind

/-- Keeps a relationship unless the same one is kept already. -/
def Relationship.settle (kept : List (Relationship α)) (r : Relationship α) :
    List (Relationship α) :=
  if kept.any r.sameAs then kept else kept ++ [r]

/-- The relationships between neighbouring mentions, each once. -/
def relationships (lower : List Char) (mentions : List Mention) (entities : List Entity) :
    List (Relationship α) :=
  ((mentions.zip mentions.tail).filterMap fun pair =>
    relate? lower entities pair.1 pair.2).foldl Relationship.settle []

end ArchDiagram.Prompt
