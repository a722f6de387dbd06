import ArchDiagram.ContainerKind
import ArchDiagram.Icon
import ArchDiagram.Scalar

namespace ArchDiagram

inductive LineStyle
  | solid
  | dashed
  | dotted
deriving DecidableEq, Repr

namespace LineStyle

def all : List LineStyle := [.solid, .dashed, .dotted]

def name : LineStyle → String
  | .solid => "solid"
  | .dashed => "dashed"
  | .dotted => "dotted"

end LineStyle

/-- Optional drawing attributes of a node. -/
structure NodeStyle where
  shape : Option String := none
  fill : Option String := none
  stroke : Option String := none
deriving DecidableEq, Repr

def NodeStyle.isPlain (style : NodeStyle) : Bool :=
  style.shape.isNone && style.fill.isNone && style.stroke.isNone

/-- A component with its box. -/
structure Node (α : Type) where
  id : String
  label : String
  icon : Icon
  x : α
  y : α
  width : α
  height : α
  style : NodeStyle := {}
  /-- The container that the node names as its own. -/
  owner : Option String := none
deriving DecidableEq, Repr

/-- A box around nodes. -/
structure Container (α : Type) where
  id : String
  label : String
  kind : ContainerKind
  x : α
  y : α
  width : α
  height : α
  /-- Ids of the nodes that the container lists. -/
  children : List String := []
deriving DecidableEq, Repr

structure LinkStyle where
  line : LineStyle := .solid
  thickness : UInt32 := 2
  color : Option String := none
deriving DecidableEq, Repr

/-- A connection from one node to another. -/
structure Link where
  id : String
  source : String
  target : String
  label : Option String := none
  bidirectional : Bool := false
  style : LinkStyle := {}
deriving DecidableEq, Repr

/-- A drawing. A drawing without containers and one with an empty list of them differ. -/
structure Diagram (α : Type) where
  title : String := ""
  nodes : List (Node α) := []
  links : List Link := []
  containers : Option (List (Container α)) := none
deriving DecidableEq, Repr

variable {α : Type}

namespace Node

variable [Scalar α]

def defaultWidth : α := 120.0

def defaultHeight : α := 100.0

/-- A node of the default size at the origin. -/
def fresh (id label : String) (icon : Icon) : Node α :=
  { id, label, icon, x := 0.0, y := 0.0, width := defaultWidth, height := defaultHeight }

def centerX (node : Node α) : α := node.x + node.width / 2.0

def centerY (node : Node α) : α := node.y + node.height / 2.0

def right (node : Node α) : α := node.x + node.width

def bottom (node : Node α) : α := node.y + node.height

end Node

namespace Container

variable [Scalar α]

/-- A container without members, all of its box zero. -/
def fresh (id label : String) (kind : ContainerKind) : Container α :=
  { id, label, kind, x := 0.0, y := 0.0, width := 0.0, height := 0.0 }

/-- Slack that rounding gets when a node is tested to lie in its container. -/
def tolerance : α := 1e-6

/-- True when the box of the node lies in the box of the container, up to the tolerance. -/
def encloses (container : Container α) (node : Node α) : Bool :=
  decide (container.x - tolerance ≤ node.x) && decide (container.y - tolerance ≤ node.y) &&
    decide (node.right ≤ container.x + container.width + tolerance) &&
    decide (node.bottom ≤ container.y + container.height + tolerance)

end Container

namespace Link

/-- The color of a link that has none of its own. -/
def defaultColor : String := "#6b7280"

/-- Equality of colors without regard to the case of ASCII letters. -/
def sameColor (a b : String) : Bool := a.toList.map Char.toLower == b.toList.map Char.toLower

/-- True when the link has a color other than the default one. -/
def isColored (link : Link) : Bool := link.style.color.any (!sameColor · defaultColor)

/-- True when the link begins or ends at the node. -/
def touches (link : Link) (id : String) : Bool := link.source == id || link.target == id

end Link

namespace Diagram

def node? (d : Diagram α) (id : String) : Option (Node α) := d.nodes.find? (·.id == id)

/-- The containers, none when there is no list of them. -/
def containerList (d : Diagram α) : List (Container α) := d.containers.getD []

def container? (d : Diagram α) (id : String) : Option (Container α) :=
  d.containerList.find? (·.id == id)

end Diagram

end ArchDiagram
