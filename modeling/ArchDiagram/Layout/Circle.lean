import ArchDiagram.Layout.Grid

namespace ArchDiagram.Layout

variable {α : Type} [Scalar α]

def fullTurn : α := 6.283185307179586

def circleRadius (count : Nat) : α := Scalar.max 200.0 ((count : α) * 15.0)

/-- Puts the center of a node on the circle, the node being one of `count` at equal angles. -/
def onCircle (plan : Plan α) (count index : Nat) (node : Node α) : Node α :=
  let radius : α := circleRadius count
  let angle : α := fullTurn * (index : α) / (count : α)
  { node with
    x := plan.centerX + radius * Scalar.cos angle - node.width / 2.0
    y := plan.centerY + radius * Scalar.sin angle - node.height / 2.0 }

/-- Places all nodes on a circle around the center of the plan and leaves the containers. -/
def Scene.circle (plan : Plan α) (scene : Scene α) : Scene α :=
  let count := scene.nodes.length
  { scene with nodes := scene.nodes.mapIdx (onCircle plan count) }

end ArchDiagram.Layout
