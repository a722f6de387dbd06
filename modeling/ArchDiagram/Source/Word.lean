namespace ArchDiagram.Source

def nodeWord : List Char := ['n', 'o', 'd', 'e']

def containerWord : List Char := ['c', 'o', 'n', 't', 'a', 'i', 'n', 'e', 'r']

def iconWord : List Char := ['i', 'c', 'o', 'n']

def typeWord : List Char := ['t', 'y', 'p', 'e']

def xWord : List Char := ['x']

def yWord : List Char := ['y']

def widthWord : List Char := ['w', 'i', 'd', 't', 'h']

def heightWord : List Char := ['h', 'e', 'i', 'g', 'h', 't']

/-- The arrow of a link that leads one way. -/
def arrow : List Char := ['-', '>']

/-- The arrow of a link that leads both ways. -/
def doubleArrow : List Char := ['<', '-', '>']

def commentMark : List Char := ['/', '/']

def quoteMark : Char := Char.ofNat 0x22

def openBrace : Char := Char.ofNat 0x7B

def closeBrace : Char := Char.ofNat 0x7D

/-- White space inside a line of source: blank and tab. -/
def isGap (c : Char) : Bool := c = ' ' || c = '\t'

def isIdChar (c : Char) : Bool := c.isAlphanum || c = '_'

def isValueChar (c : Char) : Bool := isIdChar c || c = '-'

def isLabelChar (c : Char) : Bool := !(c = quoteMark || c = '\n')

end ArchDiagram.Source
