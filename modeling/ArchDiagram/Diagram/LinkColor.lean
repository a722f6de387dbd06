import ArchDiagram.Diagram.Basic

namespace ArchDiagram

/-- Colors in the order in which they are tried. -/
abbrev Palette := List String

/-- Ten colors that are easy to tell apart. -/
def Palette.standard : Palette :=
  ["#3b82f6", "#ef4444", "#10b981", "#f59e0b", "#8b5cf6", "#ec4899", "#06b6d4", "#84cc16",
   "#f97316", "#6366f1"]

/-- Nodes with the ids of the links at them, in the order of the links. -/
abbrev Incidence := List (String × List String)

namespace Incidence

/-- Adds a link to those at a node. A node that has no entry gets one. -/
def note (node link : String) : Incidence → Incidence
  | [] => [(node, [link])]
  | (id, ids) :: rest =>
    if id = node then (id, ids ++ [link]) :: rest else (id, ids) :: note node link rest

/-- Adds a link at both of its ends, once if they are one node. -/
def join (incidence : Incidence) (link : Link) : Incidence :=
  let atSource := incidence.note link.source link.id
  if link.target = link.source then atSource else atSource.note link.target link.id

/-- The links at all nodes, also at those that only links name. -/
def ofDrawing {α : Type} (nodes : List (Node α)) (links : List Link) : Incidence :=
  links.foldl join (nodes.map fun node => (node.id, []))

def linksAt (incidence : Incidence) (node : String) : List String :=
  (incidence.lookup node).getD []

end Incidence

/-- Ids of links with their colors, the latest first. -/
abbrev Coloring := List (String × String)

namespace Coloring

/-- The colors that links have of their own. Of links with one id the last one counts. -/
def ofLinks (links : List Link) : Coloring :=
  ((links.filter (·.isColored)).filterMap fun link =>
    link.style.color.map fun color => (link.id, color)).reverse

/-- True when two links have an end in common. -/
def meet (a b : Link) : Bool := a.touches b.source || a.touches b.target

/-- The colors of the links that meet a link. -/
def near (colors : Coloring) (links : List Link) (link : Link) : List String :=
  (links.filter (meet · link)).filterMap fun other => colors.lookup other.id

/-- The first color of the palette that is not used. If all are, the one at the index counted round
the palette, and the default color if there is none at all. -/
def choose (palette : Palette) (used : List String) (index : Nat) : String :=
  ((palette.find? (!used.contains ·)).or palette[index % palette.length]?).getD Link.defaultColor

/-- Gives a link its color unless its id has one. -/
def give (palette : Palette) (links : List Link) (colors : Coloring) (item : Link × Nat) :
    Coloring :=
  if (colors.lookup item.1.id).isSome then colors
  else (item.1.id, choose palette (colors.near links item.1) item.2) :: colors

/-- Colors for all links. A link that is colored keeps its color; the others are visited in
order. -/
def assign (palette : Palette) (links : List Link) : Coloring :=
  links.zipIdx.foldl (give palette links) (ofLinks links)

/-- The colors of the links at the two ends of a link. -/
def around (colors : Coloring) (incidence : Incidence) (link : Link) : List String :=
  ([link.source, link.target].flatMap incidence.linksAt).filterMap (colors.lookup ·)

/-- Gives a link its color with its neighbors looked up at its ends. -/
def giveAround (palette : Palette) (incidence : Incidence) (colors : Coloring)
    (item : Link × Nat) : Coloring :=
  if (colors.lookup item.1.id).isSome then colors
  else (item.1.id, choose palette (colors.around incidence item.1) item.2) :: colors

/-- The same colors as `assign`, with the links at each node collected once for the whole
drawing. -/
def assignAround {α : Type} (palette : Palette) (nodes : List (Node α)) (links : List Link) :
    Coloring :=
  links.zipIdx.foldl (giveAround palette (.ofDrawing nodes links)) (ofLinks links)

end Coloring

/-- The link in the color that its id has. -/
def Link.painted (colors : Coloring) (link : Link) : Link :=
  match colors.lookup link.id with
  | some color => { link with style := { link.style with color := some color } }
  | none => link

def Diagram.paint {α : Type} (palette : Palette) (d : Diagram α) : Diagram α :=
  { d with links := d.links.map (Link.painted (Coloring.assignAround palette d.nodes d.links)) }

end ArchDiagram
