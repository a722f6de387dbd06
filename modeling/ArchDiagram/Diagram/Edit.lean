import ArchDiagram.Diagram.Basic

namespace ArchDiagram

/-- Why a change is refused. -/
inductive EditError
  | duplicateNode (id : String)
  | duplicateContainer (id : String)
  | unknownNode (link endpoint : String)
deriving DecidableEq, Repr

def EditError.message : EditError → String
  | .duplicateNode id => "Duplicate node id: " ++ id
  | .duplicateContainer id => "Duplicate container id: " ++ id
  | .unknownNode link endpoint =>
    "Link " ++ link ++ " references unknown node: " ++ endpoint

namespace Diagram

variable {α : Type}

/-- Adds a node unless its id is taken. -/
def addNode (d : Diagram α) (node : Node α) : Except EditError (Diagram α) :=
  if (d.node? node.id).isSome then .error (.duplicateNode node.id)
  else .ok { d with nodes := d.nodes ++ [node] }

/-- Adds a link unless one of its ends is no node, the source being looked at first. -/
def addLink (d : Diagram α) (link : Link) : Except EditError (Diagram α) :=
  match [link.source, link.target].find? fun endpoint => (d.node? endpoint).isNone with
  | some endpoint => .error (.unknownNode link.id endpoint)
  | none => .ok { d with links := d.links ++ [link] }

/-- Adds a container, with no condition on its id. -/
def addContainer (d : Diagram α) (container : Container α) : Diagram α :=
  { d with containers := some (d.containerList ++ [container]) }

/-- Moves the first node with an id, if there is one. -/
def moveNode (d : Diagram α) (id : String) (x y : α) : Option (Diagram α) :=
  (d.nodes.findIdx? (·.id == id)).map fun index =>
    { d with nodes := d.nodes.modify index fun node => { node with x, y } }

/-- Removes everything but the title. -/
def clear (d : Diagram α) : Diagram α := { title := d.title }

end Diagram

end ArchDiagram
