import ArchDiagram.Source.Scan
import ArchDiagram.Source.Statement

namespace ArchDiagram.Source

open Scan

/-- An id and a label with a colon between them. -/
def idAndLabel : Scan (String × String) := do
  let id ← identifier
  gap
  char ':'
  gap
  let text ← label
  return (id, text)

/-- `node id: "label" icon=name x=1 y=2`, then `width=3` and `height=4`, each if given. -/
def nodeForm : Scan Statement := do
  literal nodeWord
  someGap
  let (id, label) ← idAndLabel
  someGap
  let icon ← keyed iconWord bareValue
  someGap
  let x ← keyed xWord integer
  someGap
  let y ← keyed yWord integer
  let width ← optional do
    someGap
    keyed widthWord integer
  let height ← optional do
    someGap
    keyed heightWord integer
  return .node { id, label, icon, x, y, width, height }

/-- `source -> target`, then `: "label"` if given, with the arrow that is asked for. -/
def arrowForm (arrow : List Char) (bidirectional : Bool) : Scan Statement := do
  let source ← identifier
  gap
  literal arrow
  gap
  let target ← identifier
  let label ← optional do
    gap
    char ':'
    gap
    Scan.label
  return .link { source, target, label, bidirectional }

/-- A link with either arrow. The double arrow is tried first. -/
def linkForm : Scan Statement := (arrowForm doubleArrow true).orElse (arrowForm arrow false)

/-- A container with its box and an opening brace; a closing brace may follow on the same line. -/
def containerForm : Scan Statement := do
  literal containerWord
  someGap
  let (id, label) ← idAndLabel
  someGap
  let kind ← keyed typeWord bareValue
  someGap
  let x ← keyed xWord integer
  someGap
  let y ← keyed yWord integer
  someGap
  let width ← keyed widthWord integer
  someGap
  let height ← keyed heightWord integer
  gap
  char openBrace
  let closing ← optional do
    gap
    char closeBrace
  return .container { id, label, kind, x, y, width, height, closed := closing.isSome }

def closeForm : Scan Statement := do
  char closeBrace
  return .close

/-- The form that a heading asks for; an unknown heading has none. -/
def Heading.form : Heading → Option (Scan Statement)
  | .node => some nodeForm
  | .link => some linkForm
  | .container => some containerForm
  | .close => some closeForm
  | .unknown => none

/-- A line that is no statement: what it set out to be, and why reading stopped. -/
structure StatementError where
  heading : Heading
  reason : Option Reason
deriving DecidableEq, Repr

def StatementError.message (e : StatementError) : String :=
  match e.reason with
  | some reason => e.heading.complaint ++ " (" ++ reason.text ++ ")"
  | none => e.heading.complaint

/-- Reads a form up to the end of the line. -/
def wholeLine (form : Scan Statement) : Scan Statement := do
  let statement ← form
  lineEnd
  return statement

/-- Reads a line. Its heading alone decides which form it must have. -/
def readStatement (line : List Char) : Except StatementError Statement :=
  let heading := Heading.ofLine line
  match heading.form with
  | none => .error ⟨heading, none⟩
  | some form =>
    match (wholeLine form).run line with
    | .ok statement => .ok statement
    | .error reason => .error ⟨heading, reason⟩

end ArchDiagram.Source
