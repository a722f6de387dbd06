import ArchDiagram.Layout.Choice
import ArchDiagram.Layout.Circle
import ArchDiagram.Layout.Frame
import ArchDiagram.Layout.Spread

namespace ArchDiagram.Layout

open Prompt

inductive Shape
  | rows
  | circle
deriving DecidableEq, Repr

variable {α : Type} [Scalar α]

/-- Busyness above which a hybrid layout becomes a circle. -/
def circleThreshold : α := 0.7

/-- The shape of an algorithm. A hybrid layout depends on how busy the system is. -/
def Algorithm.shape (algorithm : Algorithm) (a : Analysis α) : Shape :=
  match algorithm with
  | .hierarchical | .radial | .grid | .cluster | .flow => .rows
  | .organic => .circle
  | .hybrid => if circleThreshold < busyness a then .circle else .rows

namespace Scene

def place (shape : Shape) (plan : Plan α) (scene : Scene α) : Scene α :=
  match shape with
  | .rows => scene.arrange plan
  | .circle => scene.circle plan

/-- Lays a drawing out: places the nodes, pushes close ones apart, draws the containers around their
nodes and moves the drawing to the origin. -/
def position (plan : Plan α) (a : Analysis α) (scene : Scene α) : Scene α :=
  let placed := scene.place (plan.algorithm.shape a) plan
  let apart := { placed with nodes := (spread plan.nodeSpacing placed.nodes).1 }
  apart.fit.toOrigin

end Scene

end ArchDiagram.Layout

namespace ArchDiagram.Diagram

open Layout Prompt

variable {α : Type} [Scalar α]

def position (plan : Plan α) (a : Analysis α) (d : Diagram α) : Diagram α :=
  let scene := Scene.position plan a ⟨d.nodes, d.containerList⟩
  { d with nodes := scene.nodes, containers := d.containers.map fun _ => scene.containers }

end ArchDiagram.Diagram
