import ArchDiagram.Decimal.Fixed
import ArchDiagram.Prompt.Analysis
import ArchDiagram.Source.Fault

namespace ArchDiagram.Report

open Prompt

/-- How colors reach the terminal: not at all, as they are, or as sequences that name no color. -/
inductive Ink
  | off
  | on
  | blank
deriving DecidableEq, Repr

inductive Hue
  | red
  | green
  | yellow
  | cyan
  | grey
deriving DecidableEq, Repr

def Hue.number : Hue → String
  | .red => "9"
  | .green => "10"
  | .yellow => "11"
  | .cyan => "14"
  | .grey => "8"

/-- A control sequence of the terminal. -/
def sequence (parameters : String) : String := "\x1b[" ++ parameters ++ "m"

def Ink.paint (ink : Ink) (hue : Hue) (text : String) : String :=
  match ink with
  | .off => text
  | .on => sequence ("38;5;" ++ hue.number) ++ text ++ sequence "39"
  | .blank => sequence "" ++ text ++ sequence ""

section Failures

variable {φ : Type} [ToString φ]

/-- An error with its line, and the line below it. -/
def lineError (ink : Ink) (e : Source.LineError φ) : String :=
  ink.paint .yellow ("line " ++ toString e.line) ++ ": " ++ ink.paint .red (toString e.fault) ++
    "\n    | " ++ ink.paint .grey e.text

/-- All errors of a source and their count. -/
def failure (ink : Ink) (f : Source.Failure φ) : String :=
  let count := f.errors.length
  let total := toString count ++ (if count = 1 then " error found" else " errors found")
  String.intercalate "\n" (f.errors.map (lineError ink) ++ [ink.paint .red total])

end Failures

def success (ink : Ink) (text : String) : String := ink.paint .green ("✓ " ++ text)

def trouble (ink : Ink) (text : String) : String := ink.paint .red ("✗ " ++ text)

def percent (share : Float) : String := String.ofList (Decimal.fixed 0 (share * 100.0))

def entityLine (e : Entity) : String := "  " ++ e.id ++ " [" ++ e.icon.name ++ "] " ++ e.name

def relationshipLine (r : Relationship Float) : String :=
  "  " ++ r.source ++ " -> " ++ r.target ++ " (" ++ r.kind.name ++ ", " ++ r.label ++ ")"

def groupingText (g : Grouping) : String :=
  String.intercalate ", " (g.counts.map fun count => count.1.name ++ "×" ++ toString count.2)

def summary (ink : Ink) (a : Analysis Float) : String :=
  let item (heading text : String) : String := ink.paint .cyan heading ++ " " ++ text
  String.intercalate "\n"
    ([item "Pattern:" (a.pattern.title ++ " (" ++ percent a.confidence ++ "% confidence)"),
      item "Flow:" a.flow.code,
      item "Complexity / scale:" (a.complexity.name ++ " / " ++ a.scale.name),
      item "Entities:" (toString a.entities.length)] ++
      a.entities.map entityLine ++
      [item "Relationships:" (toString a.relationships.length)] ++
      a.relationships.map relationshipLine ++
      (if a.grouping.isNeeded then [item "Containers:" (groupingText a.grouping)] else []))

end ArchDiagram.Report
