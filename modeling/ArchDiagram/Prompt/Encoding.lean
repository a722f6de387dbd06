import ArchDiagram.Json.Basic
import ArchDiagram.Prompt.Analysis

namespace ArchDiagram.Prompt

variable {α : Type}

def Entity.encode (e : Entity) : Json α :=
  .obj [("id", .str e.id), ("name", .str e.name), ("icon", .str e.icon.name),
    ("mentions", .int e.mentions)]

def Relationship.encode (r : Relationship α) : Json α :=
  .obj [("source", .str r.source), ("target", .str r.target), ("kind", .str r.kind.name),
    ("strength", .num r.strength), ("label", .str r.label)]

/-- Only the kinds that are spoken of have a count. -/
def Grouping.encode (g : Grouping) : Json α :=
  .obj [("counts", .obj (g.counts.map fun count => (count.1.name, .int count.2))),
    ("layer_mentions", .int g.layerMentions), ("nesting_depth", .int g.depth)]

def Density.encode (d : Density α) : Json α :=
  .obj [("component", .num d.component), ("connection", .num d.connection),
    ("average_degree", .num d.averageDegree)]

def Analysis.encode (a : Analysis α) : Json α :=
  .obj [
    ("pattern", .str a.pattern.name),
    ("confidence", .num a.confidence),
    ("primary_flow", .str a.flow.name),
    ("complexity", .str a.complexity.name),
    ("scale", .str a.scale.name),
    ("entities", .arr (a.entities.map Entity.encode)),
    ("relationships", .arr (a.relationships.map Relationship.encode)),
    ("containers", a.grouping.encode),
    ("density", a.density.encode)]

end ArchDiagram.Prompt
