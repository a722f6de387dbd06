namespace ArchDiagram.Text

/-- True when the code point lies in one of the ranges, ends included. -/
def inRanges (ranges : List (Nat × Nat)) (c : Char) : Bool :=
  ranges.any fun r => r.1 ≤ c.toNat && c.toNat ≤ r.2

def blankRanges : List (Nat × Nat) :=
  [(0x9, 0xD), (0x20, 0x20), (0x85, 0x85), (0xA0, 0xA0), (0x1680, 0x1680), (0x2000, 0x200A),
   (0x2028, 0x2029), (0x202F, 0x202F), (0x205F, 0x205F), (0x3000, 0x3000)]

def isBlank (c : Char) : Bool := inRanges blankRanges c

/-- The text without its leading white space. -/
def trimLeft (s : List Char) : List Char := s.dropWhile isBlank

/-- The text without its trailing white space. -/
def trimRight (s : List Char) : List Char := (trimLeft s.reverse).reverse

/-- The text without white space at either end. -/
def trim (s : List Char) : List Char := trimRight (trimLeft s)

/-- A name in the form in which names are compared: trimmed, its ASCII letters in lower case. -/
def folded (name : String) : String := String.ofList ((trim name.toList).map Char.toLower)

end ArchDiagram.Text
