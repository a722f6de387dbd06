import ArchDiagram.Diagram.Basic
import ArchDiagram.Prompt.Analysis
import ArchDiagram.Text.Width
import ArchDiagram.Tier

namespace ArchDiagram

open Prompt

variable {α : Type} [Scalar α]

/-- The width of a node that shows a label: eight units for each column and a margin, and no less
than the default width. -/
def labelledWidth (label : String) : α :=
  Scalar.max ((Text.width label.toList : α) * 8.0 + 40.0) Node.defaultWidth

def relationStyle : RelationKind → LinkStyle
  | .dependency => { line := .dashed, thickness := 2 }
  | .dataFlow => { line := .solid, thickness := 3 }
  | .communication => { line := .solid, thickness := 2 }
  | .containment => { line := .dotted, thickness := 1 }

namespace Prompt

def tierId (tier : Tier) : String := "tier_" ++ tier.slug

/-- The node of a component. It belongs to the container of its tier if there are containers. -/
def Entity.toNode (grouped : Bool) (e : Entity) : Node α :=
  { Node.fresh e.id e.name e.icon with
    width := labelledWidth e.name
    owner := if grouped then some (tierId (Tier.ofIcon e.icon)) else none }

def Relationship.toLink (r : Relationship α) (number : Nat) : Link :=
  { id := "link-" ++ toString number
    source := r.source
    target := r.target
    label := some r.label
    style := relationStyle r.kind }

namespace Analysis

/-- True when nodes are put into containers: the description speaks of boxes and there are at least
two components. -/
def isGrouped (a : Analysis α) : Bool := a.grouping.isNeeded && decide (2 ≤ a.entities.length)

/-- The container of a tier with the components that belong there. -/
def tierContainer (a : Analysis α) (tier : Tier) : Container α :=
  let members := a.entities.filter fun e => Tier.ofIcon e.icon = tier
  { Container.fresh (tierId tier) tier.label (a.grouping.dominant?.getD .tier) with
    children := members.map (·.id) }

/-- One container for each tier that has components. -/
def tierContainers (a : Analysis α) : List (Container α) :=
  (Tier.all.map a.tierContainer).filter fun c => !c.children.isEmpty

/-- The diagram of a described system: a node for each component, a link for each relationship, and
containers for the tiers if the description speaks of boxes. -/
def draft (a : Analysis α) : Diagram α :=
  { title := a.pattern.title ++ " Architecture"
    nodes := a.entities.map (Entity.toNode a.isGrouped)
    links := (a.relationships.zipIdx 1).map fun item => item.1.toLink item.2
    containers := if a.isGrouped then some a.tierContainers else none }

end Analysis

end Prompt

end ArchDiagram
