import ArchDiagram.Decimal.Basic

namespace ArchDiagram.Source

inductive Expected
  | char (c : Char)
  | any
  | other
  | digit
  | nonZeroDigit
  | lineEnd
deriving DecidableEq, Repr

def Expected.text : Expected → String
  | .char c => "'" ++ String.singleton c ++ "'"
  | .any => "any"
  | .other => "something else"
  | .digit => "digit"
  | .nonZeroDigit => "non-zero digit"
  | .lineEnd => "end of input"

/-- Why reading stopped: something else was found than expected, or an integer is out of range. -/
inductive Reason
  | mismatch (found : Option Char) (expected : List Expected)
  | badInteger (digits : String)
deriving DecidableEq, Repr

/-- A list of choices: the last one after a comma and `or`. -/
def choices : List String → String
  | [] => ""
  | [one] => one
  | items => String.intercalate ", " items.dropLast ++ ", or " ++ items.getLastD ""

def Reason.text : Reason → String
  | .mismatch found expected =>
    let found := match found with
      | some c => (Expected.char c).text
      | none => Expected.lineEnd.text
    "found " ++ found ++ " expected " ++ choices (expected.map Expected.text)
  | .badInteger digits =>
    let side := if digits.startsWith "-" then "small" else "large"
    "invalid integer '" ++ digits ++ "': number too " ++ side ++ " to fit in target type"

/-- The reason at the farthest place, which is given by the length of what is left there. -/
structure Mark where
  left : Nat
  reason : Reason
deriving DecidableEq, Repr

/-- The farthest failure so far, if there was one. -/
abbrev Trace := Option Mark

/-- The members of the first list, then those of the second that are new. -/
def union (a b : List Expected) : List Expected := a ++ b.filter (!a.contains ·)

/-- Records that something else was expected before `rest`. A failure at an earlier place is
dropped, one at the same place adds to what is expected there. -/
def Trace.fail (trace : Trace) (rest : List Char) (expected : List Expected) : Trace :=
  let here : Mark := ⟨rest.length, .mismatch rest.head? expected⟩
  match trace with
  | none => some here
  | some mark =>
    if rest.length < mark.left then some here
    else if mark.left < rest.length then trace
    else match mark.reason with
      | .mismatch found already => some ⟨mark.left, .mismatch found (union already expected)⟩
      | .badInteger _ => trace

/-- Records that the integer before `rest` is out of range, unless a later failure is known. -/
def Trace.failInteger (trace : Trace) (rest : List Char) (digits : List Char) : Trace :=
  let here : Mark := ⟨rest.length, .badInteger (String.ofList digits)⟩
  match trace with
  | none => some here
  | some mark => if mark.left < rest.length then trace else some here

/-- The farther of two failures. At one place the longer list of what is expected comes first. -/
def Trace.merge (a b : Trace) : Trace :=
  match a, b with
  | none, b => b
  | a, none => a
  | some p, some q =>
    if p.left < q.left then a
    else if q.left < p.left then b
    else match p.reason, q.reason with
      | .mismatch found these, .mismatch _ those =>
        some ⟨p.left, .mismatch found
          (if these.length < those.length then union those these else union these those)⟩
      | .badInteger _, _ => a
      | _, .badInteger _ => b

end ArchDiagram.Source
