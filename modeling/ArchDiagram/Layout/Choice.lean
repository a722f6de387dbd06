import ArchDiagram.Layout.Plan
import ArchDiagram.Prompt.Analysis

namespace ArchDiagram.Layout

open Prompt

variable {α : Type} [Scalar α]

/-- Larger systems get more room. -/
def scaleMultiplier : Scale → α
  | .small => 1.0
  | .medium => 1.3
  | .large => 1.6
  | .enterprise => 2.0

/-- So do systems with more parts. -/
def complexityAdjustment : Complexity → α
  | .simple => 0.8
  | .moderate => 1.0
  | .complex => 1.3
  | .veryComplex => 1.6

def baseAlgorithm : Pattern → Algorithm
  | .clientServer | .layered | .nTier | .general => .hierarchical
  | .microservices => .cluster
  | .eventDriven | .ragLlm | .pipeline => .flow
  | .hubSpoke => .radial
  | .distributed => .organic
  | .enterprise | .hybrid => .hybrid
  | .neuralNetwork => .grid

/-- Mentions of layers from which a layered system is a deep one. -/
def deepLayering : Nat := 4

/-- Component density above which a drawing is packed more tightly. -/
def denseComponents : α := 0.7

def nestingOf : Nat → Nesting
  | 0 => .flat
  | 1 => .mixed
  | _ => .nested

/-- What a style asks for beyond its algorithm: nesting, a factor for the canvas and one for the
gaps between levels. -/
structure Demand (α : Type) where
  nesting : Nesting
  canvas : α
  level : α

/-- Large organisations and mixed clouds are nested on a wide canvas, deep layers on one that is
somewhat wider. -/
def demand (a : Analysis α) : Demand α :=
  match a.pattern with
  | .enterprise | .hybrid => ⟨.nested, 1.5, 1.0⟩
  | .layered =>
    if deepLayering ≤ a.grouping.layerMentions then ⟨.nested, 1.25, 1.2⟩
    else ⟨nestingOf a.grouping.depth, 1.0, 1.0⟩
  | _ => ⟨nestingOf a.grouping.depth, 1.0, 1.0⟩

def choosePlan (a : Analysis α) : Plan α :=
  let factor : α := scaleMultiplier a.scale * complexityAdjustment a.complexity
  let demand := demand a
  let canvas : Canvas α := Canvas.standard.scaled demand.canvas
  { algorithm := baseAlgorithm a.pattern
    flow := a.flow
    nodeSpacing := Plan.baseNodeSpacing * factor
    levelSpacing := Plan.baseLevelSpacing * factor * demand.level
    containerSpacing := Plan.baseContainerSpacing * factor
    nesting := demand.nesting
    compact := decide (denseComponents < a.density.component)
    canvas
    centerX := canvas.centerX
    centerY := canvas.centerY }

/-- How busy a system is, from 0 to 1: its size, its number of parts and how crowded it is. -/
def busyness (a : Analysis α) : α :=
  let scale := scaleMultiplier a.scale - 1.0
  let complexity := (complexityAdjustment a.complexity - 0.8) / 0.8
  0.3 * scale + 0.3 * complexity + 0.2 * a.density.component + 0.2 * a.density.connection

end ArchDiagram.Layout
