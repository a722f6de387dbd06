import ArchDiagram.Source.Grammar

namespace ArchDiagram.Source

inductive Fault
  | statement (error : StatementError)
  | unknownIcon (name : String)
  | unknownKind (name : String)
  | duplicateNode (id : String)
  | duplicateContainer (id : String)
  | strayClose
  | unclosed
  | unknownNode (id : String)
deriving DecidableEq, Repr

def Fault.message : Fault → String
  | .statement error => error.message
  | .unknownIcon name => "Unknown icon type: " ++ name
  | .unknownKind name => "Unknown container type: " ++ name
  | .duplicateNode id => "Duplicate node id: " ++ id
  | .duplicateContainer id => "Duplicate container id: " ++ id
  | .strayClose => "Unexpected closing brace"
  | .unclosed => "Unclosed container block"
  | .unknownNode id => "Unknown node reference: " ++ id

instance : ToString Fault := ⟨Fault.message⟩

/-- A fault, told in any way, with its line. Lines are counted from one and given without the white
space around them. -/
structure LineError (φ : Type := Fault) where
  line : Nat
  fault : φ
  text : String
deriving DecidableEq, Repr

structure Failure (φ : Type := Fault) where
  errors : List (LineError φ)
deriving DecidableEq, Repr

variable {φ : Type}

def LineError.message [ToString φ] (e : LineError φ) : String :=
  "line " ++ toString e.line ++ ": " ++ toString e.fault ++ ": `" ++ e.text ++ "`"

namespace Failure

/-- Puts errors in the order of their lines; errors of one line keep their order. -/
def ofErrors (errors : List (LineError φ)) : Failure φ :=
  ⟨errors.mergeSort fun a b => a.line ≤ b.line⟩

/-- The lines with errors, each once. -/
def lines (f : Failure φ) : List Nat := (f.errors.map (·.line)).eraseReps

/-- The count of errors and the first of them. -/
def message [ToString φ] (f : Failure φ) : String :=
  let first := match f.errors with
    | e :: _ => e.message
    | [] => "none"
  toString f.errors.length ++ " error(s) in diagram source; first: " ++ first

/-- The text when the source is one thing among others that can fail. -/
def wrappedMessage [ToString φ] (f : Failure φ) : String := "Parse error: " ++ f.message

end Failure

end ArchDiagram.Source
