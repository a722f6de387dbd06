import ArchDiagram.Diagram.Basic
import ArchDiagram.Source.Fault
import ArchDiagram.Text.Runs

namespace ArchDiagram.Source

variable {α : Type}

/-- A line that is neither blank nor a comment, trimmed, with its number. -/
structure SourceLine where
  number : Nat
  text : List Char
deriving DecidableEq, Repr

/-- The lines that hold statements. -/
def sourceLines (source : List Char) : List SourceLine :=
  ((Text.numbered (Text.lines source)).map fun line => ⟨line.1, Text.trim line.2⟩).filter
    fun line => !line.text.isEmpty && !commentMark.isPrefixOf line.text

def SourceLine.error (line : SourceLine) (fault : Fault) : LineError :=
  ⟨line.number, fault, String.ofList line.text⟩

/-- A block that is still open. Its container is none when its header has an error. -/
structure OpenBlock where
  container : Option String
  line : SourceLine
deriving DecidableEq, Repr

/-- A link that waits until all nodes are known. -/
structure PendingLink where
  decl : LinkDecl
  line : SourceLine
deriving DecidableEq, Repr

/-- What the lines read so far have declared. The innermost block comes first. -/
structure Progress (α : Type) where
  nodes : List (Node α) := []
  containers : List (Container α) := []
  blocks : List OpenBlock := []
  links : List PendingLink := []
  errors : List LineError := []

namespace Progress

def fault (p : Progress α) (line : SourceLine) (fault : Fault) : Progress α :=
  { p with errors := p.errors ++ [line.error fault] }

def openBlock (p : Progress α) (container : Option String) (line : SourceLine) : Progress α :=
  { p with blocks := ⟨container, line⟩ :: p.blocks }

/-- The container into which a node goes: that of the innermost block. -/
def current (p : Progress α) : Option String := p.blocks.head?.bind (·.container)

/-- Lists a node in the container with an id. -/
def listChild (containers : List (Container α)) (id child : String) : List (Container α) :=
  containers.map fun c => if c.id = id then { c with children := c.children ++ [child] } else c

variable [Scalar α]

/-- The node that a declaration describes. -/
def nodeOf (decl : NodeDecl) (icon : Icon) (owner : Option String) : Node α :=
  { id := decl.id
    label := decl.label
    icon
    x := (decl.x : α)
    y := (decl.y : α)
    width := decl.width.elim Node.defaultWidth fun w => (w : α)
    height := decl.height.elim Node.defaultHeight fun h => (h : α)
    owner }

/-- The container that a declaration describes, without children. -/
def containerOf (decl : ContainerDecl) (kind : ContainerKind) : Container α :=
  { id := decl.id
    label := decl.label
    kind
    x := (decl.x : α)
    y := (decl.y : α)
    width := (decl.width : α)
    height := (decl.height : α) }

/-- Takes a node: its icon must be known and its id new. -/
def addNode (p : Progress α) (line : SourceLine) (decl : NodeDecl) : Progress α :=
  match Icon.ofName? decl.icon with
  | none => p.fault line (.unknownIcon decl.icon)
  | some icon =>
    if p.nodes.any (·.id == decl.id) then p.fault line (.duplicateNode decl.id)
    else
      { p with
        nodes := p.nodes ++ [nodeOf decl icon p.current]
        containers := match p.current with
          | some id => listChild p.containers id decl.id
          | none => p.containers }

/-- Takes a container: its kind must be known and its id new. Its block is opened all the same,
so that the braces after it are matched. -/
def addContainer (p : Progress α) (line : SourceLine) (decl : ContainerDecl) : Progress α :=
  let enter (p : Progress α) (container : Option String) : Progress α :=
    if decl.closed then p else p.openBlock container line
  match ContainerKind.ofName? decl.kind with
  | none => enter (p.fault line (.unknownKind decl.kind)) none
  | some kind =>
    if p.containers.any (·.id == decl.id) then
      enter (p.fault line (.duplicateContainer decl.id)) none
    else
      enter { p with containers := p.containers ++ [containerOf decl kind] } (some decl.id)

/-- Closes the innermost block; there must be one. -/
def close (p : Progress α) (line : SourceLine) : Progress α :=
  match p.blocks with
  | [] => p.fault line .strayClose
  | _ :: outer => { p with blocks := outer }

/-- Keeps count of braces on a line that is no statement: one that begins with a closing brace
closes a block, one that ends with an opening brace opens one. -/
def matchBraces (p : Progress α) (line : SourceLine) : Progress α :=
  if line.text.head? = some closeBrace then { p with blocks := p.blocks.tail }
  else if line.text.getLast? = some openBrace then p.openBlock none line
  else p

def step (p : Progress α) (line : SourceLine) : Progress α :=
  match readStatement line.text with
  | .ok (.node decl) => p.addNode line decl
  | .ok (.link decl) => { p with links := p.links ++ [⟨decl, line⟩] }
  | .ok (.container decl) => p.addContainer line decl
  | .ok .close => p.close line
  | .error error => (p.fault line (.statement error)).matchBraces line

/-- The first end of a link that no node has as its id. -/
def unknownEnd? (p : Progress α) (decl : LinkDecl) : Option String :=
  [decl.source, decl.target].find? fun id => !p.nodes.any (·.id == id)

def linkErrors (p : Progress α) : List LineError :=
  p.links.filterMap fun link =>
    (p.unknownEnd? link.decl).map fun id => link.line.error (.unknownNode id)

/-- The errors of blocks that are still open, the outermost first. -/
def blockErrors (p : Progress α) : List LineError :=
  p.blocks.reverse.map fun block => block.line.error .unclosed

/-- The links whose ends are known, numbered from one. -/
def resolvedLinks (p : Progress α) : List Link :=
  (Text.numbered (p.links.filter fun link => (p.unknownEnd? link.decl).isNone)).map fun item =>
    { id := "link-" ++ toString item.1
      source := item.2.decl.source
      target := item.2.decl.target
      label := item.2.decl.label
      bidirectional := item.2.decl.bidirectional }

/-- The diagram, if there was no error at all. -/
def finish (p : Progress α) (title : String) : Except Failure (Diagram α) :=
  let errors := p.errors ++ p.blockErrors ++ p.linkErrors
  if errors.isEmpty then
    .ok
      { title
        nodes := p.nodes
        links := p.resolvedLinks
        containers := if p.containers.isEmpty then none else some p.containers }
  else .error (.ofErrors errors)

end Progress

/-- The title of a diagram that is given none. -/
def defaultTitle : String := "Untitled Diagram"

variable [Scalar α]

/-- Compiles source: a diagram, or every error in it. Every line is read, so that one run reports
all that is wrong. -/
def compile (title source : String) : Except Failure (Diagram α) :=
  ((sourceLines source.toList).foldl Progress.step ({} : Progress α)).finish title

/-- True when the first statement has a known heading, whether or not it is well formed. -/
def looksLikeSource (source : String) : Bool :=
  (sourceLines source.toList).head?.any fun line => Heading.ofLine line.text ≠ .unknown

end ArchDiagram.Source
