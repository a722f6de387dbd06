import ArchDiagram.Proofs.Source.Lines
import ArchDiagram.Proofs.Source.WellFormed

namespace ArchDiagram.Source

variable {α : Type}

def SourceLine.renumber (f : Nat → Nat) (line : SourceLine) : SourceLine :=
  { line with number := f line.number }

def LineError.renumber (f : Nat → Nat) (e : LineError) : LineError := { e with line := f e.line }

def OpenBlock.renumber (f : Nat → Nat) (block : OpenBlock) : OpenBlock :=
  { block with line := block.line.renumber f }

def PendingLink.renumber (f : Nat → Nat) (link : PendingLink) : PendingLink :=
  { link with line := link.line.renumber f }

namespace Progress

/-- The progress that the same texts make under other line numbers. -/
def renumber (f : Nat → Nat) (p : Progress α) : Progress α :=
  { p with
    blocks := p.blocks.map (·.renumber f)
    links := p.links.map (·.renumber f)
    errors := p.errors.map (·.renumber f) }

variable (f : Nat → Nat) (p : Progress α) (line : SourceLine)

theorem renumber_fault (fault : Fault) :
    (p.fault line fault).renumber f = (p.renumber f).fault (line.renumber f) fault := by
  simp [renumber, Progress.fault, SourceLine.error, LineError.renumber, SourceLine.renumber]

theorem current_renumber : (p.renumber f).current = p.current := by
  cases hb : p.blocks with
  | nil => simp [renumber, current, hb]
  | cons block outer => simp [renumber, current, hb, OpenBlock.renumber]

theorem renumber_close : (p.close line).renumber f = (p.renumber f).close (line.renumber f) := by
  cases hb : p.blocks with
  | nil =>
    have hnone : (p.renumber f).blocks = [] := by simp [renumber, hb]
    simp only [close, hb, hnone, renumber_fault]
  | cons block outer =>
    have hsome : (p.renumber f).blocks = block.renumber f :: outer.map (·.renumber f) := by
      simp [renumber, hb]
    simp only [close, hb, hsome]
    rfl

theorem renumber_matchBraces :
    (p.matchBraces line).renumber f = (p.renumber f).matchBraces (line.renumber f) := by
  have htext : (line.renumber f).text = line.text := rfl
  simp only [matchBraces, htext]
  split_ifs
  · simp [renumber, List.map_tail]
  · rfl
  · rfl

variable [Scalar α]

theorem renumber_addNode (decl : NodeDecl) :
    (p.addNode line decl).renumber f = (p.renumber f).addNode (line.renumber f) decl := by
  have hnodes : (p.renumber f).nodes = p.nodes := rfl
  simp only [addNode, hnodes, current_renumber]
  cases Icon.ofName? decl.icon with
  | none => exact renumber_fault f p line _
  | some icon =>
    dsimp only
    split_ifs
    · exact renumber_fault f p line _
    · rfl

theorem renumber_addContainer (decl : ContainerDecl) :
    (p.addContainer line decl).renumber f = (p.renumber f).addContainer (line.renumber f) decl := by
  have hcontainers : (p.renumber f).containers = p.containers := rfl
  have henter (q : Progress α) (container : Option String) :
      (if decl.closed then q else q.openBlock container line).renumber f =
        if decl.closed then q.renumber f
          else (q.renumber f).openBlock container (line.renumber f) := by
    split_ifs <;> rfl
  simp only [addContainer, hcontainers]
  cases ContainerKind.ofName? decl.kind with
  | none =>
    dsimp only
    rw [henter, renumber_fault]
  | some kind =>
    dsimp only
    by_cases hd : p.containers.any (·.id == decl.id) = true
    · rw [if_pos hd, if_pos hd, henter, renumber_fault]
    · rw [if_neg hd, if_neg hd, henter]
      rfl

/-- A line does the same under any number. -/
theorem renumber_step : (p.step line).renumber f = (p.renumber f).step (line.renumber f) := by
  have htext : (line.renumber f).text = line.text := rfl
  simp only [step, htext]
  cases readStatement line.text with
  | error e => rw [renumber_matchBraces, renumber_fault]
  | ok statement =>
    cases statement with
    | node decl => exact renumber_addNode f p line decl
    | link decl => simp [renumber, PendingLink.renumber]
    | container decl => exact renumber_addContainer f p line decl
    | close => exact renumber_close f p line

/-- So does a run of lines. -/
theorem renumber_run (lines : List SourceLine) :
    (lines.foldl step p).renumber f = (lines.map (·.renumber f)).foldl step (p.renumber f) := by
  induction lines generalizing p with
  | nil => rfl
  | cons line lines ih => rw [List.foldl_cons, List.map_cons, List.foldl_cons, ih, renumber_step]

omit [Scalar α]

/-- All errors of a compilation, before they are put in order. -/
def allErrors (p : Progress α) : List LineError := p.errors ++ p.blockErrors ++ p.linkErrors

theorem allErrors_renumber : (p.renumber f).allErrors = p.allErrors.map (·.renumber f) := by
  have hends (decl : LinkDecl) : (p.renumber f).unknownEnd? decl = p.unknownEnd? decl := rfl
  have hblocks : (p.renumber f).blockErrors = p.blockErrors.map (·.renumber f) := by
    simp only [blockErrors, renumber, ← List.map_reverse, List.map_map]
    rfl
  have hlinks : (p.renumber f).linkErrors = p.linkErrors.map (·.renumber f) := by
    simp only [linkErrors, hends, List.map_filterMap, Option.map_map]
    simp only [renumber, List.filterMap_map]
    rfl
  simp only [allErrors, hblocks, hlinks, List.map_append]
  rfl

theorem resolvedLinks_renumber : (p.renumber f).resolvedLinks = p.resolvedLinks := by
  have hends (decl : LinkDecl) : (p.renumber f).unknownEnd? decl = p.unknownEnd? decl := rfl
  simp only [resolvedLinks, hends]
  simp only [renumber, List.filter_map, Text.numbered_map, List.map_map]
  rfl

def diagram (p : Progress α) (title : String) : Diagram α :=
  { title
    nodes := p.nodes
    links := p.resolvedLinks
    containers := if p.containers.isEmpty then none else some p.containers }

theorem diagram_renumber (title : String) : (p.renumber f).diagram title = p.diagram title := by
  rw [diagram, resolvedLinks_renumber]
  rfl

theorem finish_eq (title : String) :
    p.finish title = if p.allErrors.isEmpty then .ok (p.diagram title)
      else .error (.ofErrors p.allErrors) :=
  rfl

end Progress

end ArchDiagram.Source
