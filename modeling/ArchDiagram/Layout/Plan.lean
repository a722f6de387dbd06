import ArchDiagram.Flow
import ArchDiagram.Json.Basic
import ArchDiagram.Scalar
import ArchDiagram.Text.Case

namespace ArchDiagram.Layout

inductive Algorithm
  | hierarchical
  | radial
  | grid
  | cluster
  | flow
  | hybrid
  | organic
deriving DecidableEq, Repr

namespace Algorithm

def all : List Algorithm := [.hierarchical, .radial, .grid, .cluster, .flow, .hybrid, .organic]

def name : Algorithm → String
  | .hierarchical => "hierarchical"
  | .radial => "radial"
  | .grid => "grid"
  | .cluster => "cluster"
  | .flow => "flow"
  | .hybrid => "hybrid"
  | .organic => "organic"

/-- The algorithm with this name in any mixture of cases. -/
def ofName? (text : String) : Option Algorithm :=
  let key := String.ofList (Text.lowerCase text.toList)
  all.find? (·.name == key)

/-- The text for a name that no algorithm has. -/
def unknownMessage (text : String) : String := "Unknown layout algorithm: " ++ text

end Algorithm

inductive Nesting
  | flat
  | nested
  | mixed
deriving DecidableEq, Repr

namespace Nesting

def all : List Nesting := [.flat, .nested, .mixed]

def name : Nesting → String
  | .flat => "flat"
  | .nested => "nested"
  | .mixed => "mixed"

end Nesting

variable {α : Type}

structure Canvas (α : Type) where
  width : α
  height : α

structure Plan (α : Type) where
  algorithm : Algorithm
  flow : Flow
  /-- Gap between nodes of one level. -/
  nodeSpacing : α
  /-- Gap between levels. -/
  levelSpacing : α
  containerSpacing : α
  nesting : Nesting
  /-- Uses one column less where there are several. -/
  compact : Bool
  canvas : Canvas α
  centerX : α
  centerY : α

namespace Canvas

variable [Scalar α]

def standard : Canvas α := ⟨1600.0, 1200.0⟩

def centerX (canvas : Canvas α) : α := canvas.width / 2.0

def centerY (canvas : Canvas α) : α := canvas.height / 2.0

def scaled (canvas : Canvas α) (factor : α) : Canvas α :=
  ⟨canvas.width * factor, canvas.height * factor⟩

end Canvas

namespace Plan

variable [Scalar α]

def baseNodeSpacing : α := 150.0

def baseLevelSpacing : α := 120.0

def baseContainerSpacing : α := 80.0

/-- The plan when nothing is known about the drawing. -/
def standard : Plan α :=
  { algorithm := .hierarchical
    flow := .topDown
    nodeSpacing := baseNodeSpacing
    levelSpacing := baseLevelSpacing
    containerSpacing := baseContainerSpacing
    nesting := .flat
    compact := false
    canvas := .standard
    centerX := Canvas.standard.centerX
    centerY := Canvas.standard.centerY }

end Plan

open Json

def Canvas.encode (canvas : Canvas α) : Json α :=
  .obj [("width", .num canvas.width), ("height", .num canvas.height)]

def Plan.encode (plan : Plan α) : Json α :=
  .obj [
    ("algorithm", .str plan.algorithm.name),
    ("direction", .str plan.flow.name),
    ("node_spacing", .num plan.nodeSpacing),
    ("level_spacing", .num plan.levelSpacing),
    ("container_spacing", .num plan.containerSpacing),
    ("container_hierarchy", .str plan.nesting.name),
    ("optimize_density", .bool plan.compact),
    ("bounds", plan.canvas.encode),
    ("center", .arr [.num plan.centerX, .num plan.centerY])]

end ArchDiagram.Layout
