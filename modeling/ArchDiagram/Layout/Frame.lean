import ArchDiagram.Layout.Grid

namespace ArchDiagram.Layout

variable {α : Type} [Scalar α]

/-- A rectangle by its edges. -/
structure Box (α : Type) where
  left : α
  top : α
  right : α
  bottom : α

def Box.ofNode (node : Node α) : Box α := ⟨node.x, node.y, node.right, node.bottom⟩

def Box.join (a b : Box α) : Box α :=
  ⟨Scalar.min a.left b.left, Scalar.min a.top b.top, Scalar.max a.right b.right,
    Scalar.max a.bottom b.bottom⟩

def boundingBox? : List (Node α) → Option (Box α)
  | [] => none
  | node :: rest => some (rest.foldl (fun box n => box.join (.ofNode n)) (.ofNode node))

/-- A node belongs to a container that lists it or that it names as its own. -/
def isMember (container : Container α) (node : Node α) : Bool :=
  container.children.contains node.id || node.owner == some container.id

/-- Draws a container around its members, with padding on every side. A container without members
stays as it is. -/
def fitContainer (nodes : List (Node α)) (container : Container α) : Container α :=
  match boundingBox? (nodes.filter (isMember container)) with
  | none => container
  | some box =>
    { container with
      x := box.left - padding
      y := box.top - padding
      width := box.right - box.left + 2.0 * padding
      height := box.bottom - box.top + 2.0 * padding }

/-- Draws every container around its members. -/
def Scene.fit (scene : Scene α) : Scene α :=
  { scene with containers := scene.containers.map (fitContainer scene.nodes) }

/-- How far to move so that no coordinate is negative. -/
def offsetOf (coordinates : List α) : α := -(coordinates.foldl Scalar.min 0.0)

/-- How far right a drawing has to move. -/
def Scene.offsetX (scene : Scene α) : α :=
  offsetOf (scene.nodes.map (·.x) ++ scene.containers.map (·.x))

/-- How far down a drawing has to move. -/
def Scene.offsetY (scene : Scene α) : α :=
  offsetOf (scene.nodes.map (·.y) ++ scene.containers.map (·.y))

def Scene.moved (scene : Scene α) (dx dy : α) : Scene α :=
  { nodes := scene.nodes.map fun n => { n with x := n.x + dx, y := n.y + dy }
    containers := scene.containers.map fun c => { c with x := c.x + dx, y := c.y + dy } }

/-- Moves a drawing so that no coordinate is negative, and no further. -/
def Scene.toOrigin (scene : Scene α) : Scene α := scene.moved scene.offsetX scene.offsetY

/-- True for a zero of either sign. -/
def isZero (x : α) : Bool := decide (x ≤ 0.0) && decide (0.0 ≤ x)

/-- The move to the origin with the vector that everything moves by. A drawing that needs no move is
left as it is. -/
def Scene.normalize (scene : Scene α) : (α × α) × Scene α :=
  let shift := (scene.offsetX, scene.offsetY)
  if isZero shift.1 && isZero shift.2 then (shift, scene)
  else (shift, scene.moved shift.1 shift.2)

end ArchDiagram.Layout
