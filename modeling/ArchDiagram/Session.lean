import ArchDiagram.Source.Merge

namespace ArchDiagram

open Source (Editing)

variable {α : Type} [Scalar α]

inductive Operation (α : Type)
  | addNode (node : Node α)
  | addLink (link : Link)
  | merge (title source : String)
  | clear

namespace Operation

def run : Operation α → Editing α Unit
  | .addNode node => Editing.change (·.addNode node)
  | .addLink link => Editing.change (·.addLink link)
  | .merge title source => Source.mergeInto title source
  | .clear => modify Diagram.clear

/-- The diagram that the operation leaves behind, whether or not it fails. -/
def after (d : Diagram α) (operation : Operation α) : Diagram α :=
  match operation.run d with
  | .ok _ d => d
  | .error _ d => d

end Operation

/-- The diagram after some operations. One that fails does not end the session. -/
def session (start : Diagram α) (operations : List (Operation α)) : Diagram α :=
  operations.foldl Operation.after start

end ArchDiagram
