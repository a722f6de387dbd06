import ArchDiagram.Source.Word
import ArchDiagram.Text.Blank

namespace ArchDiagram.Source

/-- Declares a node. The icon is a name that is still to be looked up. -/
structure NodeDecl where
  id : String
  label : String
  icon : String
  x : Int
  y : Int
  width : Option Int
  height : Option Int
deriving DecidableEq, Repr

/-- Declares a link between two nodes. -/
structure LinkDecl where
  source : String
  target : String
  label : Option String
  bidirectional : Bool
deriving DecidableEq, Repr

/-- Opens a container, or declares an empty one when it is closed on the same line. The kind is a
name that is still to be looked up. -/
structure ContainerDecl where
  id : String
  label : String
  kind : String
  x : Int
  y : Int
  width : Int
  height : Int
  closed : Bool
deriving DecidableEq, Repr

inductive Statement
  | node (decl : NodeDecl)
  | link (decl : LinkDecl)
  | container (decl : ContainerDecl)
  | close
deriving DecidableEq, Repr

/-- What a line sets out to be, judged by how it begins. -/
inductive Heading
  | node
  | link
  | container
  | close
  | unknown
deriving DecidableEq, Repr

/-- True when the line begins with the word and a gap, and no arrow comes next. A word followed by
an arrow is the id of a node. -/
def startsWith (word line : List Char) : Bool :=
  word.isPrefixOf line &&
    let rest := line.drop word.length
    let next := Text.trimLeft rest
    rest.head?.any isGap && !arrow.isPrefixOf next && !doubleArrow.isPrefixOf next

/-- True when an arrow stands anywhere in the line. -/
def hasArrow : List Char → Bool
  | [] => false
  | c :: rest => arrow.isPrefixOf (c :: rest) || hasArrow rest

/-- What the line sets out to be. -/
def Heading.ofLine (line : List Char) : Heading :=
  if startsWith nodeWord line then .node
  else if startsWith containerWord line then .container
  else if line.head? = some closeBrace then .close
  else if hasArrow line then .link
  else .unknown

/-- What is wrong with a line that does not have the form of its heading. -/
def Heading.complaint : Heading → String
  | .node => "Invalid node declaration"
  | .link => "Invalid connection"
  | .container => "Invalid container declaration"
  | .close => "Unexpected text after closing brace"
  | .unknown => "Unrecognized statement"

end ArchDiagram.Source
