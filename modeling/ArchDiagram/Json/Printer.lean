import ArchDiagram.Json.Basic
import ArchDiagram.Decimal.Shortest

namespace ArchDiagram.Json

def hexDigit (n : Nat) : Char := Char.ofNat (if n < 10 then 0x30 + n else 0x57 + n)

def letterEscapes : List (Nat × Char) :=
  [(0x22, Char.ofNat 0x22), (0x5C, Char.ofNat 0x5C), (0x08, 'b'), (0x0C, 'f'), (0x0A, 'n'),
   (0x0D, 'r'), (0x09, 't')]

/-- A character inside a quoted text: quote, backslash and controls are escaped. -/
def escape (c : Char) : List Char :=
  match letterEscapes.lookup c.toNat with
  | some letter => [Char.ofNat 0x5C, letter]
  | none =>
    if c.toNat < 0x20 then
      [Char.ofNat 0x5C, 'u', '0', '0', hexDigit (c.toNat / 16), hexDigit (c.toNat % 16)]
    else [c]

def quoted (s : String) : List Char :=
  [Char.ofNat 0x22] ++ s.toList.flatMap escape ++ [Char.ofNat 0x22]

/-- A number that is not finite has no JSON form and is written as null. -/
def numberText (x : Float) : List Char :=
  if x.isFinite then Decimal.shortest x else ['n', 'u', 'l', 'l']

def indent (depth : Nat) : List Char := List.replicate (2 * depth) ' '

/-- Members on lines of their own between two brackets; brackets alone when there are none. -/
def block (depth : Nat) (opening closing : Nat) (members : List (List Char)) : List Char :=
  if members.isEmpty then [Char.ofNat opening, Char.ofNat closing]
  else
    [Char.ofNat opening, '\n'] ++
      List.intercalate [',', '\n'] (members.map (indent (depth + 1) ++ ·)) ++
      ['\n'] ++ indent depth ++ [Char.ofNat closing]

mutual

/-- A value at a depth of nesting, two blanks for each level. -/
def print (depth : Nat) : Json Float → List Char
  | .null => ['n', 'u', 'l', 'l']
  | .bool true => ['t', 'r', 'u', 'e']
  | .bool false => ['f', 'a', 'l', 's', 'e']
  | .int n => Decimal.intText n
  | .num x => numberText x
  | .str s => quoted s
  | .arr items => block depth 0x5B 0x5D (printItems (depth + 1) items)
  | .obj fields => block depth 0x7B 0x7D (printFields (depth + 1) fields)
  | .unreadable => ['n', 'u', 'l', 'l']

def printItems (depth : Nat) : List (Json Float) → List (List Char)
  | [] => []
  | item :: rest => print depth item :: printItems depth rest

def printFields (depth : Nat) : List (String × Json Float) → List (List Char)
  | [] => []
  | (name, value) :: rest =>
    (quoted name ++ [':', ' '] ++ print depth value) :: printFields depth rest

end

def pretty (value : Json Float) : String := String.ofList (print 0 value)

end ArchDiagram.Json
