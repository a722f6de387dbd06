import ArchDiagram.Diagram.Basic

namespace ArchDiagram

/-- A reference that cannot be resolved, or an id that is taken. -/
inductive Violation
  | duplicateNode (id : String)
  | unknownEndpoint (link endpoint : String)
  | unknownChild (container child : String)
deriving DecidableEq, Repr

def Violation.message : Violation → String
  | .duplicateNode id => "duplicate node id '" ++ id ++ "'"
  | .unknownEndpoint link endpoint =>
    "link '" ++ link ++ "' references unknown node '" ++ endpoint ++ "'"
  | .unknownChild container child =>
    "container '" ++ container ++ "' lists unknown child '" ++ child ++ "'"

namespace Diagram

variable {α : Type}

/-- The ids that stand in `seen` or earlier in the list. -/
def repeatedIds (seen : List String) : List String → List String
  | [] => []
  | id :: rest =>
    if seen.contains id then id :: repeatedIds seen rest else repeatedIds (id :: seen) rest

def nodeIds (d : Diagram α) : List String := d.nodes.map (·.id)

/-- Every violation: ids of nodes that are taken, then ends of links, then children that are no
node's id. -/
def violations (d : Diagram α) : List Violation :=
  let ids := d.nodeIds
  let endpoints := d.links.flatMap fun link =>
    [link.source, link.target].filterMap fun endpoint =>
      if ids.contains endpoint then none else some (.unknownEndpoint link.id endpoint)
  let children := d.containerList.flatMap fun container =>
    container.children.filterMap fun child =>
      if ids.contains child then none else some (.unknownChild container.id child)
  (repeatedIds [] ids).map .duplicateNode ++ endpoints ++ children

/-- Accepts a diagram without violations, else gives them all. -/
def validate (d : Diagram α) : Except (List Violation) Unit :=
  if d.violations.isEmpty then .ok () else .error d.violations

def validationMessage (violations : List Violation) : String :=
  "Validation error: " ++ String.intercalate "; " (violations.map Violation.message)

end Diagram

end ArchDiagram
