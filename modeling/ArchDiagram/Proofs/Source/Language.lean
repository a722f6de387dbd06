import Mathlib.Data.List.TakeWhile
import ArchDiagram.Source.Grammar

namespace ArchDiagram.Source

/-- A language: the texts that belong to it, each with what it reads as, when every integer that is
written in them has to lie in the given range. It lays down no order of reading: a text may be cut
into its parts in every possible way. -/
def Language (β : Type) : Type := (Int → Prop) → List Char → β → Prop

namespace Language

variable {β γ : Type}

/-- The empty text alone. -/
def nothing (value : β) : Language β := fun _ u x => u = [] ∧ x = value

/-- A text of the first language, then one of the second. -/
def followedBy (first : Language β) (next : β → Language γ) : Language γ :=
  fun range u y => ∃ v w x, u = v ++ w ∧ first range v x ∧ next x range w y

instance : Monad Language where
  pure := nothing
  bind := followedBy

def exactly (word : List Char) : Language Unit := fun _ u _ => u = word

/-- Any number of characters of a kind. -/
def many (p : Char → Bool) : Language (List Char) := fun _ u x => (∀ c ∈ u, p c = true) ∧ x = u

def manyOne (p : Char → Bool) : Language (List Char) :=
  fun range u x => many p range u x ∧ u ≠ []

def perhaps (part : Language β) : Language (Option β) :=
  fun range u y => (u = [] ∧ y = none) ∨ ∃ x, part range u x ∧ y = some x

def either (first second : Language β) : Language β :=
  fun range u x => first range u x ∨ second range u x

/-- Blanks and tabs, if any. -/
def gap : Language Unit := do
  let _ ← many isGap

def someGap : Language Unit := do
  let _ ← manyOne isGap

/-- At least one character of a kind, as a string. -/
def word (p : Char → Bool) : Language String := do
  let chars ← manyOne p
  return String.ofList chars

/-- A run of characters other than the quote and the line feed, between two quotes. -/
def quoted : Language String := do
  exactly [quoteMark]
  let chars ← many isLabelChar
  exactly [quoteMark]
  return String.ofList chars

def numeral : Language (List Char) :=
  fun range u x => manyOne Char.isDigit range u x ∧ (u.head? = some '0' → u = ['0'])

def signed : Language (Bool × List Char) := do
  let sign ← perhaps (exactly ['-'])
  let chars ← numeral
  return (sign.isSome, chars)

def integer : Language Int := fun range u n =>
  ∃ text, signed range u text ∧ n = Scan.signedValue text ∧ range n

def keyed (key : List Char) (value : Language β) : Language β := do
  exactly key
  exactly ['=']
  value

def idAndLabel : Language (String × String) := do
  let id ← word isIdChar
  gap
  exactly [':']
  gap
  let text ← quoted
  return (id, text)

def node : Language Statement := do
  exactly nodeWord
  someGap
  let (id, label) ← idAndLabel
  someGap
  let icon ← keyed iconWord (word isValueChar)
  someGap
  let x ← keyed xWord integer
  someGap
  let y ← keyed yWord integer
  let width ← perhaps do
    someGap
    keyed widthWord integer
  let height ← perhaps do
    someGap
    keyed heightWord integer
  return .node { id, label, icon, x, y, width, height }

/-- Declares a link with the given arrow. -/
def arrowLink (arrow : List Char) (bidirectional : Bool) : Language Statement := do
  let source ← word isIdChar
  gap
  exactly arrow
  gap
  let target ← word isIdChar
  let label ← perhaps do
    gap
    exactly [':']
    gap
    quoted
  return .link { source, target, label, bidirectional }

def link : Language Statement := either (arrowLink doubleArrow true) (arrowLink arrow false)

/-- Opens a container or declares an empty one. -/
def container : Language Statement := do
  exactly containerWord
  someGap
  let (id, label) ← idAndLabel
  someGap
  let kind ← keyed typeWord (word isValueChar)
  someGap
  let x ← keyed xWord integer
  someGap
  let y ← keyed yWord integer
  someGap
  let width ← keyed widthWord integer
  someGap
  let height ← keyed heightWord integer
  gap
  exactly [openBrace]
  let closing ← perhaps do
    gap
    exactly [closeBrace]
  return .container { id, label, kind, x, y, width, height, closed := closing.isSome }

def close : Language Statement := do
  exactly [closeBrace]
  return .close

/-- Lines of a form, with blanks and tabs behind it. -/
def lines (form : Language Statement) : Language Statement := do
  let statement ← form
  gap
  return statement

end Language

/-- The lines of a heading; an unknown heading has none. -/
def Heading.language : Heading → Language Statement
  | .node => Language.lines Language.node
  | .link => Language.lines Language.link
  | .container => Language.lines Language.container
  | .close => Language.lines Language.close
  | .unknown => fun _ _ _ => False

end ArchDiagram.Source
