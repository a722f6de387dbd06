import ArchDiagram.Diagram.Basic

namespace ArchDiagram.Layout

variable {α : Type} [Scalar α]

/-- Part of the gap between nodes below which two centers are too close. -/
def collisionFactor : α := 0.7

/-- Centers that are no further apart than this count as one point. -/
def coincidence : α := 2.220446049250313080847263336181640625e-16

/-- Moves two nodes apart along the line through their centers, each by half of what is missing to
the threshold; along the horizontal when the centers are one point. None when they are far enough
from each other. -/
def push? (threshold : α) (a b : Node α) : Option (Node α × Node α) :=
  let dx := b.centerX - a.centerX
  let dy := b.centerY - a.centerY
  let distance := Scalar.hypot dx dy
  if threshold ≤ distance then none
  else
    let apart := decide (coincidence < distance)
    let ux := if apart then dx / distance else 1.0
    let uy := if apart then dy / distance else 0.0
    let half := (threshold - distance) / 2.0
    some ({ a with x := a.x - ux * half, y := a.y - uy * half },
      { b with x := b.x + ux * half, y := b.y + uy * half })

/-- Pushes a node and each of the following ones apart, in order. -/
def against (threshold : α) (a : Node α) : List (Node α) → Node α × List (Node α) × Nat
  | [] => (a, [], 0)
  | b :: rest =>
    match push? threshold a b with
    | none =>
      let done := against threshold a rest
      (done.1, b :: done.2.1, done.2.2)
    | some (a, b) =>
      let done := against threshold a rest
      (done.1, b :: done.2.1, done.2.2 + 1)

theorem length_against (threshold : α) (a : Node α) (nodes : List (Node α)) :
    (against threshold a nodes).2.1.length = nodes.length := by
  induction nodes generalizing a with
  | nil => rfl
  | cons b rest ih =>
    simp only [against]
    split <;> simp [ih]

/-- Visits every pair of nodes once, the first node with all later ones, then the second, and
counts the pairs that were pushed apart. -/
def sweep (threshold : α) (nodes : List (Node α)) : List (Node α) × Nat :=
  match nodes with
  | [] => ([], 0)
  | a :: rest =>
    let first := against threshold a rest
    let others := sweep threshold first.2.1
    (first.1 :: others.1, first.2.2 + others.2)
termination_by nodes.length
decreasing_by simp [length_against]

/-- One sweep over all nodes, for a gap between nodes. -/
def spread (nodeSpacing : α) (nodes : List (Node α)) : List (Node α) × Nat :=
  sweep (collisionFactor * nodeSpacing) nodes

end ArchDiagram.Layout
