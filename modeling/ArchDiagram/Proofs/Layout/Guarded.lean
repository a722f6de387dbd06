import ArchDiagram.Layout.Position

namespace ArchDiagram.Layout

open Prompt

/-- Why a step has no result. A division by zero, a difference of counts below zero, an access
outside a list and a start anew beyond the budget have no result but a fault. -/
inductive Fault
  | zeroDivisor
  | belowZero
  | outside
  | reentry
deriving DecidableEq, Repr

abbrev Guarded := Except Fault

namespace Guarded

variable {α β : Type}

def quotient (a b : Nat) : Guarded Nat := if b = 0 then .error .zeroDivisor else .ok (a / b)

def remainder (a b : Nat) : Guarded Nat := if b = 0 then .error .zeroDivisor else .ok (a % b)

/-- A quotient rounded up. -/
def rows (count columns : Nat) : Guarded Nat :=
  if columns = 0 then .error .zeroDivisor else .ok (rowsFor count columns)

def difference (a b : Nat) : Guarded Nat := if a < b then .error .belowZero else .ok (a - b)

def ratio [Scalar α] (a b : α) : Guarded α := if isZero b then .error .zeroDivisor else .ok (a / b)

def read (xs : List β) (i : Nat) : Guarded β :=
  match xs[i]? with
  | some x => .ok x
  | none => .error .outside

def write (xs : List β) (i : Nat) (x : β) : Guarded (List β) :=
  if i < xs.length then .ok (xs.set i x) else .error .outside

def update (xs : List β) (i : Nat) (f : β → Guarded β) : Guarded (List β) := do
  let x ← read xs i
  write xs i (← f x)

/-- Changes the elements at some positions, each with the number of its position among them. -/
def updateAll (f : Nat → β → Guarded β) (positions : List Nat) (xs : List β) : Guarded (List β) :=
  positions.zipIdx.foldlM (fun xs p => update xs p.1 (f p.2)) xs

/-- One column less if the drawing is compact, but at least one. -/
def tighten (compact : Bool) (columns : Nat) : Guarded Nat :=
  if compact then do return max (← difference columns 1) 1 else return columns

variable [Scalar α]

def levelOf (levels : Levels α) (plan : Plan α) (slot : Nat) : Guarded Nat := do
  let index ← quotient slot levels.columns
  if plan.flow.isReversed then difference (← difference levels.count 1) index else return index

def put (levels : Levels α) (plan : Plan α) (slot : Nat) (node : Node α) : Guarded (Node α) := do
  let offset : α := ((← remainder slot levels.columns : Nat) : α)
  let index ← levelOf levels plan slot
  let level : α := (index : α)
  if plan.flow.isHorizontal then
    return { node with
      x := levels.originX + level * (levels.width + plan.levelSpacing)
      y := levels.originY + offset * (levels.height + plan.nodeSpacing) }
  else
    return { node with
      x := levels.originX + offset * (levels.width + plan.nodeSpacing)
      y := levels.originY + level * (levels.height + plan.levelSpacing) }

/-- The largest measure of the nodes at some positions, at least zero. -/
def largestAt (measure : Node α → α) (nodes : List (Node α)) (positions : List Nat) : Guarded α :=
  positions.foldlM (fun most i => do return Scalar.max most (measure (← read nodes i))) 0.0

/-- Places the nodes at some positions in levels, from an origin on. -/
def placeLevels (plan : Plan α) (originX originY : α) (positions : List Nat)
    (nodes : List (Node α)) :
    Guarded (List (Node α)) :=
  if positions.isEmpty then return nodes
  else do
    let columns ← tighten plan.compact (ceilSqrt positions.length)
    let count ← rows positions.length columns
    let width ← largestAt (·.width) nodes positions
    let height ← largestAt (·.height) nodes positions
    updateAll (put ⟨originX, originY, columns, count, width, height⟩ plan) positions nodes

/-- The position of the last node with an id. -/
def lastIndex? (ids : List String) (id : String) : Option Nat :=
  ids.zipIdx.foldl (fun found p => if p.1 = id then some p.2 else found) none

/-- Takes the node with a listed id if there is one and no container has taken it. The positions
that are taken are flagged, and those that this container has taken stand in a list. -/
def take (ids : List String) (state : List Bool × List Nat) (id : String) :
    Guarded (List Bool × List Nat) :=
  match lastIndex? ids id with
  | none => return state
  | some n => do
    if ← read state.1 n then return state
    else return (← write state.1 n true, state.2 ++ [n])

/-- Makes a container the owner of the nodes at some positions. -/
def own (c : Container α) (positions : List Nat) (nodes : List (Node α)) :
    Guarded (List (Node α)) :=
  updateAll (fun _ node => return { node with owner := some c.id }) positions nodes

def sit (c : Container α) (columns : Nat) (cellWidth cellHeight : α) (slot : Nat) (node : Node α) :
    Guarded (Node α) := do
  let column ← remainder slot columns
  let row ← quotient slot columns
  return { node with
    x := c.x + padding + (column : α) * cellWidth + (← ratio (cellWidth - node.width) 2.0)
    y := c.y + padding + (row : α) * cellHeight + (← ratio (cellHeight - node.height) 2.0) }

def seatAll (c : Container α) (positions : List Nat) (nodes : List (Node α)) :
    Guarded (List (Node α)) :=
  if positions.isEmpty then return nodes
  else do
    let columns := ceilSqrt positions.length
    let count ← rows positions.length columns
    let cellWidth ← ratio (Scalar.max (c.width - 2.0 * padding) 0.0) (columns : α)
    let cellHeight ← ratio (Scalar.max (c.height - 2.0 * padding) 0.0) (count : α)
    updateAll (sit c columns cellWidth cellHeight) positions nodes

/-- The cell of a container with an index, and its size from the list of sizes. -/
def shelve (shelves : Shelves α) (sizes : List (α × α)) (index : Nat) (c : Container α) :
    Guarded (Container α) := do
  let column ← remainder index shelves.columns
  let row ← quotient index shelves.columns
  let size ← read sizes index
  return { c with
    x := shelves.margin + (column : α) * shelves.pitchX
    y := shelves.margin + (row : α) * shelves.pitchY
    width := size.1
    height := size.2 }

/-- Places the containers from an index on, and the nodes that they take. -/
def shelveAll (shelves : Shelves α) (sizes : List (α × α)) (ids : List String) (index : Nat) :
    List (Container α) → List (Node α) → List Bool →
      Guarded (List (Container α) × List (Node α) × List Bool)
  | [], nodes, taken => return ([], nodes, taken)
  | c :: rest, nodes, taken => do
    let c ← shelve shelves sizes index c
    let (taken, positions) ← c.children.foldlM (take ids) (taken, [])
    let nodes ← own c positions nodes
    let nodes ← seatAll c positions nodes
    let (rest, nodes, taken) ← shelveAll shelves sizes ids (index + 1) rest nodes taken
    return (c :: rest, nodes, taken)

/-- The positions below a count that are not taken. -/
def free (taken : List Bool) (count : Nat) : Guarded (List Nat) :=
  (List.range count).foldlM
    (fun found i => do if ← read taken i then return found else return found ++ [i]) []

def sizesOf (containers : List (Container α)) : List (α × α) :=
  containers.map fun c => (containerWidth c.children.length, containerHeight c.children.length)

/-- Cells in some columns for containers of some sizes. -/
def shelvesOf (plan : Plan α) (columns : Nat) (sizes : List (α × α)) : Shelves α :=
  { columns
    margin := plan.containerSpacing
    pitchX := largest (sizes.map (·.1)) + plan.containerSpacing
    pitchY := largest (sizes.map (·.2)) + plan.containerSpacing + rowGap }

def arrange (plan : Plan α) (scene : Scene α) : Guarded (Scene α) :=
  if scene.containers.isEmpty then do
    let nodes ← placeLevels plan gridMargin gridMargin (List.range scene.nodes.length) scene.nodes
    return { scene with nodes }
  else do
    -- columns before the drawing is compacted
    let columns ← tighten plan.compact (containerColumns scene.containers.length false)
    let count ← rows scene.containers.length columns
    let sizes : List (α × α) := sizesOf scene.containers
    let shelves := shelvesOf plan columns sizes
    let (containers, nodes, taken) ← shelveAll shelves sizes (scene.nodes.map (·.id))
      0 scene.containers
      scene.nodes (List.replicate scene.nodes.length false)
    let positions ← free taken nodes.length
    let nodes ← placeLevels plan gridMargin
      (shelves.margin + (count : α) * shelves.pitchY) positions nodes
    return ⟨nodes, containers⟩

def onCircle (plan : Plan α) (count index : Nat) (node : Node α) : Guarded (Node α) := do
  let radius : α := circleRadius count
  let angle ← ratio (fullTurn * (index : α)) (count : α)
  return { node with
    x := plan.centerX + radius * Scalar.cos angle - (← ratio node.width 2.0)
    y := plan.centerY + radius * Scalar.sin angle - (← ratio node.height 2.0) }

def circle (plan : Plan α) (scene : Scene α) : Guarded (Scene α) := do
  let nodes ← scene.nodes.zipIdx.mapM fun p => onCircle plan scene.nodes.length p.2 p.1
  return { scene with nodes }

def center (node : Node α) : Guarded (α × α) := do
  return (node.x + (← ratio node.width 2.0), node.y + (← ratio node.height 2.0))

/-- The direction from one point to another at a distance; along the horizontal when they are one
point. -/
def direction (dx dy distance : α) : Guarded (α × α) :=
  if coincidence <
    distance then do return (← ratio dx distance, ← ratio dy distance) else return (1.0, 0.0)

def push? (threshold : α) (a b : Node α) : Guarded (Option (Node α × Node α)) := do
  let here ← center a
  let there ← center b
  let dx := there.1 - here.1
  let dy := there.2 - here.2
  let distance := Scalar.hypot dx dy
  if threshold ≤ distance then return none
  else
    let u ← direction dx dy distance
    let half ← ratio (threshold - distance) 2.0
    return some ({ a with x := a.x - u.1 * half, y := a.y - u.2 * half },
      { b with x := b.x + u.1 * half, y := b.y + u.2 * half })

/-- Moves the nodes at two positions apart if they are too close, and counts the pair. -/
def pushAt (threshold : α) (i : Nat) (state : List (Node α) × Nat) (j : Nat) :
    Guarded (List (Node α) × Nat) := do
  let a ← read state.1 i
  let b ← read state.1 j
  match ← push? threshold a b with
  | none => return state
  | some (a, b) => return (← write (← write state.1 i a) j b, state.2 + 1)

/-- Visits every pair of positions once, the first with all later ones, then the second. -/
def spread (nodeSpacing : α) (nodes : List (Node α)) : Guarded (List (Node α) × Nat) :=
  (List.range nodes.length).foldlM (fun state i =>
    (List.range' (i + 1) (nodes.length - (i + 1))).foldlM (pushAt (collisionFactor * nodeSpacing) i)
      state) (nodes, 0)

def busyness (a : Analysis α) : Guarded α := do
  let scale := scaleMultiplier a.scale - 1.0
  let complexity ← ratio (complexityAdjustment a.complexity - 0.8) 0.8
  return 0.3 * scale + 0.3 * complexity + 0.2 * a.density.component + 0.2 * a.density.connection

/-- Places nodes and containers by the algorithm of the plan. A hybrid one starts anew with the
algorithm that it has chosen, within the budget. -/
def place (a : Analysis α) (scene : Scene α) : Nat → Plan α → Guarded (Scene α)
  | budget, plan =>
    match plan.algorithm with
    | .hierarchical | .radial | .grid | .cluster | .flow => arrange plan scene
    | .organic => circle plan scene
    | .hybrid => do
      let algorithm := if circleThreshold < (← busyness a) then Algorithm.organic else .hierarchical
      match budget with
      | 0 => throw .reentry
      | budget + 1 => place a scene budget { plan with algorithm }

/-- Lays a drawing out, with a budget for starts anew. -/
def position (budget : Nat) (plan : Plan α) (a : Analysis α) (scene : Scene α) :
    Guarded (Scene α) :=
  if scene.nodes.isEmpty && scene.containers.isEmpty then return scene
  else do
    let placed ← place a scene budget plan
    let apart ← spread plan.nodeSpacing placed.nodes
    return { placed with nodes := apart.1 : Scene α }.fit.toOrigin

end Guarded

end ArchDiagram.Layout
