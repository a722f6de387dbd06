import ArchDiagram.Decimal.Basic
import ArchDiagram.Diagram.Basic
import ArchDiagram.Source.Word

namespace ArchDiagram.Source

variable {α : Type}

/-- A label fit for quotes: double quotes become single ones. -/
def cleanLabel (label : String) : List Char :=
  label.toList.map fun c => if c = quoteMark then Char.ofNat 0x27 else c

def quotedLabel (label : String) : List Char := [quoteMark] ++ cleanLabel label ++ [quoteMark]

/-- A key and its value after a blank. -/
def field (key value : List Char) : List Char := [' '] ++ key ++ ['='] ++ value

/-- Where a node belongs: the place of the first container that lists it, else of the container
that it names. -/
def ownerIndex? (d : Diagram α) (node : Node α) : Option Nat :=
  (d.containerList.findIdx? (·.children.contains node.id)).or
    (node.owner.bind fun id => d.containerList.findIdx? (·.id == id))

/-- The nodes written inside the container at a place: listed children in their order, then the
nodes that only name it. -/
def members (d : Diagram α) (index : Nat) (container : Container α) : List (Node α) :=
  let belongs (node : Node α) : Bool := ownerIndex? d node == some index
  let listed := (container.children.filterMap d.node?).filter belongs
  d.nodes.foldl (fun written node =>
    if belongs node && !written.any (·.id == node.id) then written ++ [node] else written) listed

def linkLine (link : Link) : List Char :=
  link.source.toList ++ [' '] ++ (if link.bidirectional then doubleArrow else arrow) ++ [' '] ++
    link.target.toList ++
    match link.label with
    | some label => [':', ' '] ++ quotedLabel label
    | none => []

variable [Scalar α]

def rounded (x : α) : List Char := Decimal.intText (Scalar.nearest x)

def boxFields (x y width height : α) : List Char :=
  field xWord (rounded x) ++ field yWord (rounded y) ++ field widthWord (rounded width) ++
    field heightWord (rounded height)

/-- A node, behind the given blanks. -/
def nodeLine (margin : List Char) (node : Node α) : List Char :=
  margin ++ nodeWord ++ [' '] ++ node.id.toList ++ [':', ' '] ++ quotedLabel node.label ++
    field iconWord node.icon.name.toList ++ boxFields node.x node.y node.width node.height

/-- The line that opens a container. -/
def containerLine (container : Container α) : List Char :=
  containerWord ++ [' '] ++ container.id.toList ++ [':', ' '] ++ quotedLabel container.label ++
    field typeWord container.kind.name.toList ++
    boxFields container.x container.y container.width container.height ++ [' ', openBrace]

/-- Blanks before a node inside a container. -/
def margin : List Char := [' ', ' ', ' ', ' ']

def containerLines (d : Diagram α) (index : Nat) (container : Container α) : List (List Char) :=
  [containerLine container] ++ (members d index container).map (nodeLine margin) ++ [[closeBrace]]

/-- The title as a comment, unless it is empty, and the nodes that belong to no container. -/
def headLines (d : Diagram α) : List (List Char) :=
  (if d.title.isEmpty then [] else [commentMark ++ [' '] ++ d.title.toList]) ++
    (d.nodes.filter fun node => (ownerIndex? d node).isNone).map (nodeLine [])

/-- The parts of the source: the head, a part for each container, and the links. -/
def parts (d : Diagram α) : List (List (List Char)) :=
  [headLines d] ++ (d.containerList.zipIdx.map fun item => containerLines d item.2 item.1) ++
    [d.links.map linkLine]

/-- The source of a diagram. Parts that are not empty have an empty line between them. -/
def toSource (d : Diagram α) : String :=
  let texts := ((parts d).filter (!·.isEmpty)).map fun lines => lines.flatMap (· ++ ['\n'])
  String.ofList (List.intercalate ['\n'] texts)

end ArchDiagram.Source
