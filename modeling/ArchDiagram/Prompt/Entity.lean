import ArchDiagram.Prompt.Mention

namespace ArchDiagram.Prompt

/-- A component with the count of its mentions. -/
structure Entity where
  id : String
  name : String
  icon : Icon
  mentions : Nat
deriving DecidableEq, Repr

def maxEntities : Nat := 20

/-- The identifier itself, or with the first of the suffixes `_2`, `_3`, … that is not taken. One
more suffix is tried than there are identifiers taken. -/
def freshId (taken : List String) (base : String) : String :=
  if taken.contains base then
    let suffixed := (List.range (taken.length + 1)).map fun i => base ++ "_" ++ toString (i + 2)
    (suffixed.find? (!taken.contains ·)).getD base
  else base

/-- Takes a mention: counts it for the component of this name, or adds the component if there is
still room. -/
def collect (entities : List Entity) (m : Mention) : List Entity :=
  if entities.any (·.name == m.name) then
    entities.map fun e => if e.name = m.name then { e with mentions := e.mentions + 1 } else e
  else if entities.length = maxEntities then entities
  else
    let base := String.ofList (Text.slug m.name.toList)
    entities ++ [⟨freshId (entities.map (·.id)) base, m.name, m.icon, 1⟩]

/-- The components of a list of mentions, in order of first mention. -/
def entities (mentions : List Mention) : List Entity := mentions.foldl collect []

end ArchDiagram.Prompt
