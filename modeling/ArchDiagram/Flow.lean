import ArchDiagram.Text.Case

namespace ArchDiagram

/-- The direction in which a drawing reads. -/
inductive Flow
  | topDown
  | leftRight
  | rightLeft
  | bottomUp
deriving DecidableEq, Repr

namespace Flow

def all : List Flow := [.topDown, .leftRight, .rightLeft, .bottomUp]

/-- The name of a direction in data. -/
def name : Flow → String
  | .topDown => "top-down"
  | .leftRight => "left-right"
  | .rightLeft => "right-left"
  | .bottomUp => "bottom-up"

def code : Flow → String
  | .topDown => "TD"
  | .leftRight => "LR"
  | .rightLeft => "RL"
  | .bottomUp => "BT"

/-- The direction with these two letters in either case; `TB` is another code for top down. -/
def ofCode? (text : String) : Option Flow :=
  let code := String.ofList (Text.upperCase text.toList)
  if code == "TB" then some .topDown else all.find? (·.code == code)

/-- The text for a code that no direction has. -/
def unknownMessage (text : String) : String := "Unknown direction: " ++ text

def isVertical (flow : Flow) : Bool := flow = .topDown || flow = .bottomUp

def isHorizontal (flow : Flow) : Bool := flow = .leftRight || flow = .rightLeft

/-- True when the drawing reads against the axis. -/
def isReversed (flow : Flow) : Bool := flow = .rightLeft || flow = .bottomUp

end Flow

end ArchDiagram
