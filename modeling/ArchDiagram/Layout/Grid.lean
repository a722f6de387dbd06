import ArchDiagram.Diagram.Basic
import ArchDiagram.Layout.Plan
import ArchDiagram.Layout.Root

namespace ArchDiagram.Layout

/-- Columns with one less of them if the drawing is compact, but at least one. -/
def tightened (compact : Bool) (columns : Nat) : Nat :=
  if compact then max (columns - 1) 1 else columns

/-- Columns of a grid of containers. The root of a large count is taken in binary precision. -/
def containerColumns (count : Nat) (compact : Bool) : Nat :=
  tightened compact
    (if count ≤ 2 then 1 else if count ≤ 6 then 2 else if count ≤ 12 then 3
     else ceilBinarySqrt count)

def rowsFor (count columns : Nat) : Nat := (count + columns - 1) / columns

variable {α : Type} [Scalar α]

/-- Space between the edge of a container and its nodes. -/
def padding : α := 40.0

/-- Further gap between rows of containers. -/
def rowGap : α := 40.0

/-- Place of a grid of nodes on the canvas. -/
def gridMargin : α := 50.0

def containerWidth (children : Nat) : α := 300.0 + 60.0 * (children : α)

def containerHeight (children : Nat) : α := 200.0 + 40.0 * (children : α)

/-- The largest of some measures, at least zero. -/
def largest (measures : List α) : α := measures.foldl Scalar.max 0.0

/-- For each container the listed ids that it claims: ids of nodes that no container before it has
claimed. -/
def claims (ids : List String) (taken : List String) : List (Container α) → List (List String)
  | [] => []
  | c :: rest =>
    let claimed := c.children.eraseDups.filter fun id => ids.contains id && !taken.contains id
    claimed :: claims ids (taken ++ claimed) rest

/-- The cells of the grid of containers: columns, and the distance from one cell to the next. -/
structure Shelves (α : Type) where
  columns : Nat
  margin : α
  pitchX : α
  pitchY : α

/-- Cells that are wide and high enough for every container. -/
def Shelves.ofContainers (plan : Plan α) (containers : List (Container α)) : Shelves α :=
  let counts := containers.map (·.children.length)
  { columns := containerColumns containers.length plan.compact
    margin := plan.containerSpacing
    pitchX := largest (counts.map containerWidth) + plan.containerSpacing
    pitchY := largest (counts.map containerHeight) + plan.containerSpacing + rowGap }

/-- Puts a container into the cell with an index. -/
def Shelves.put (shelves : Shelves α) (index : Nat) (container : Container α) : Container α :=
  { container with
    x := shelves.margin + ((index % shelves.columns : Nat) : α) * shelves.pitchX
    y := shelves.margin + ((index / shelves.columns : Nat) : α) * shelves.pitchY
    width := containerWidth container.children.length
    height := containerHeight container.children.length }

/-- Puts every container into its cell, from the cell with an index on. -/
def Shelves.putAll (shelves : Shelves α) (index : Nat) : List (Container α) → List (Container α)
  | [] => []
  | c :: rest => shelves.put index c :: shelves.putAll (index + 1) rest

/-- The height at which the grid of containers ends. -/
def Shelves.bottom (shelves : Shelves α) (count : Nat) : α :=
  shelves.margin + ((rowsFor count shelves.columns : Nat) : α) * shelves.pitchY

/-- A container in its place with the ids that it has claimed. -/
structure Claim (α : Type) where
  container : Container α
  ids : List String

/-- The node in the middle of its cell inside the container. -/
def Claim.seat (claim : Claim α) (slot : Nat) (node : Node α) : Node α :=
  let c := claim.container
  let columns := ceilSqrt claim.ids.length
  let rows := rowsFor claim.ids.length columns
  let cellWidth := Scalar.max (c.width - 2.0 * padding) 0.0 / (columns : α)
  let cellHeight := Scalar.max (c.height - 2.0 * padding) 0.0 / (rows : α)
  { node with
    x := c.x + padding + ((slot % columns : Nat) : α) * cellWidth + (cellWidth - node.width) / 2.0
    y := c.y + padding + ((slot / columns : Nat) : α) * cellHeight +
      (cellHeight - node.height) / 2.0
    owner := some c.id }

/-- The node seated by the container that has claimed its id. -/
def seat? (claimed : List (Claim α)) (node : Node α) : Option (Node α) :=
  claimed.findSome? fun claim => (claim.ids.idxOf? node.id).map fun slot => claim.seat slot node

/-- The cells of a grid of nodes. Levels follow each other along the flow. -/
structure Levels (α : Type) where
  originX : α
  originY : α
  columns : Nat
  count : Nat
  /-- The widest and the highest node. -/
  width : α
  height : α

/-- Cells that are wide and high enough for every node. -/
def Levels.ofNodes (plan : Plan α) (originX originY : α) (nodes : List (Node α)) : Levels α :=
  let columns := tightened plan.compact (ceilSqrt nodes.length)
  { originX
    originY
    columns
    count := rowsFor nodes.length columns
    width := largest (nodes.map (·.width))
    height := largest (nodes.map (·.height)) }

/-- Puts a node into the cell with an index. Levels run down or across, and from the far end when
the drawing reads against the axis. -/
def Levels.put (levels : Levels α) (plan : Plan α) (slot : Nat) (node : Node α) : Node α :=
  let offset : α := ((slot % levels.columns : Nat) : α)
  let index := slot / levels.columns
  let level : α := (((if plan.flow.isReversed then levels.count - 1 - index else index) : Nat) : α)
  if plan.flow.isHorizontal then
    { node with
      x := levels.originX + level * (levels.width + plan.levelSpacing)
      y := levels.originY + offset * (levels.height + plan.nodeSpacing) }
  else
    { node with
      x := levels.originX + offset * (levels.width + plan.nodeSpacing)
      y := levels.originY + level * (levels.height + plan.levelSpacing) }

/-- A node goes to the grid when no container claims its id or a later node has the same id. -/
def isFree (claimed : List (Claim α)) (node : Node α) (later : List (Node α)) : Bool :=
  later.any (·.id == node.id) || (seat? claimed node).isNone

def freeNodes (claimed : List (Claim α)) : List (Node α) → List (Node α)
  | [] => []
  | node :: later =>
    if isFree claimed node later then node :: freeNodes claimed later else freeNodes claimed later

/-- Gives every node its place: its seat in a container, or the next cell of the grid. -/
def placeNodes (claimed : List (Claim α)) (put : Nat → Node α → Node α) (slot : Nat) :
    List (Node α) → List (Node α)
  | [] => []
  | node :: later =>
    if isFree claimed node later then put slot node :: placeNodes claimed put (slot + 1) later
    else ((seat? claimed node).getD node) :: placeNodes claimed put slot later

/-- A drawing that is being laid out. -/
structure Scene (α : Type) where
  nodes : List (Node α)
  containers : List (Container α)

/-- Places containers and nodes in rows and columns. Containers come first, each with a grid of the
nodes that it claims; all other nodes form a grid below them. -/
def Scene.arrange (plan : Plan α) (scene : Scene α) : Scene α :=
  let shelves := Shelves.ofContainers plan scene.containers
  let containers := shelves.putAll 0 scene.containers
  let ids := scene.nodes.map (·.id)
  let claimed := List.zipWith Claim.mk containers (claims ids [] containers)
  let top := if containers.isEmpty then gridMargin else shelves.bottom containers.length
  let levels := Levels.ofNodes plan gridMargin top (freeNodes claimed scene.nodes)
  { nodes := placeNodes claimed (levels.put plan) 0 scene.nodes, containers }

end ArchDiagram.Layout
