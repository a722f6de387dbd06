import ArchDiagram.Diagram.Edit
import ArchDiagram.Source.Compile

namespace ArchDiagram.Source

variable {α : Type} [Scalar α]

inductive MergeError
  | source (failure : Failure)
  | taken (error : EditError)
deriving DecidableEq, Repr

/-- The first id of the compiled diagram that is taken, nodes before containers. -/
def takenId? (d compiled : Diagram α) : Option EditError :=
  let node := compiled.nodes.find? fun node => (d.node? node.id).isSome
  let container := compiled.containerList.find? fun container => (d.container? container.id).isSome
  (node.map fun node => .duplicateNode node.id).or
    (container.map fun container => .duplicateContainer container.id)

/-- Compiles source and adds what it declares. Links of the source join its own nodes only and are
numbered on from the count of links there are. -/
def merge (d : Diagram α) (source : String) : Except MergeError (Diagram α) :=
  match (compile defaultTitle source : Except Failure (Diagram α)) with
  | .error failure => .error (.source failure)
  | .ok compiled =>
    match takenId? d compiled with
    | some error => .error (.taken error)
    | none =>
      let links := (compiled.links.zipIdx (d.links.length + 1)).map fun item =>
        { item.1 with id := "link-" ++ toString item.2 }
      .ok
        { d with
          nodes := d.nodes ++ compiled.nodes
          links := d.links ++ links
          containers := match compiled.containers with
            | none => d.containers
            | some added => some (d.containerList ++ added) }

/-- A program that changes a diagram step by step. One that fails leaves the diagram behind as the
steps before have made it. -/
abbrev Editing (α : Type) := EStateM MergeError (Diagram α)

namespace Editing

omit [Scalar α]

def change (edit : Diagram α → Except EditError (Diagram α)) : Editing α Unit := do
  match edit (← get) with
  | .ok d => set d
  | .error error => throw (.taken error)

/-- Stops at a diagram with the given fault. -/
def refuse (faulty : Diagram α → Bool) (error : EditError) : Editing α Unit := do
  if faulty (← get) then throw (.taken error)

/-- Looks for ids that are taken before anything is changed. -/
def refuseTaken (compiled : Diagram α) : Editing α Unit := do
  forM compiled.nodes fun node =>
    refuse (fun d => (d.node? node.id).isSome) (.duplicateNode node.id)
  forM compiled.containerList fun container =>
    refuse (fun d => (d.container? container.id).isSome) (.duplicateContainer container.id)

/-- Adds nodes, then links, then containers, each by itself. The new links are numbered on from the
count of links there were at first. -/
def insert (compiled : Diagram α) : Editing α Unit := do
  let count := (← get).links.length
  forM compiled.nodes fun node => change (·.addNode node)
  forM (compiled.links.zipIdx (count + 1)) fun item =>
    change (·.addLink { item.1 with id := "link-" ++ toString item.2 })
  forM compiled.containerList fun container => modify (·.addContainer container)

end Editing

/-- The merge in steps, each made on the diagram that the one before has left. The title is one for
diagrams of the source alone and is not merged. -/
def mergeInto (title source : String) : Editing α Unit := do
  match (compile title source : Except Failure (Diagram α)) with
  | .error failure => throw (.source failure)
  | .ok compiled =>
    Editing.refuseTaken compiled
    Editing.insert compiled

end ArchDiagram.Source
