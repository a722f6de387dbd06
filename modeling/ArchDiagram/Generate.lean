import ArchDiagram.Diagram.Encoding
import ArchDiagram.Diagram.LinkColor
import ArchDiagram.Draft
import ArchDiagram.Layout.Position
import ArchDiagram.Prompt.Encoding
import ArchDiagram.Source.Compile

namespace ArchDiagram

open Layout Prompt

variable {α : Type}

structure Generated (α : Type) where
  analysis : Analysis α
  plan : Plan α
  diagram : Diagram α

def Generated.encode (g : Generated α) : Json α :=
  .obj [("analysis", g.analysis.encode), ("config", g.plan.encode), ("diagram", g.diagram.encode)]

/-- Colors the links if a palette is given. -/
def Diagram.paintWith (palette? : Option Palette) (d : Diagram α) : Diagram α :=
  match palette? with
  | some palette => d.paint palette
  | none => d

variable [Scalar α]

/-- Draws a described system. A given algorithm takes the place of the one that fits best. -/
def generate (prompt : String) (algorithm? : Option Algorithm) (palette? : Option Palette) :
    Generated α :=
  let analysis := analyze prompt
  let chosen := choosePlan analysis
  let plan := { chosen with algorithm := algorithm?.getD chosen.algorithm }
  { analysis, plan, diagram := (analysis.draft.position plan analysis).paintWith palette? }

/-- Compiles source and colors the links if a palette is given. -/
def compile (title source : String) (palette? : Option Palette) :
    Except Source.Failure (Diagram α) :=
  (Source.compile title source).map (Diagram.paintWith palette?)

end ArchDiagram
