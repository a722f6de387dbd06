import Mathlib.Data.List.Infix
import Mathlib.Data.List.Nodup
import ArchDiagram.Source.Compile

namespace ArchDiagram.Source

/-- A line opens a block for a container that it declares. -/
def IsHeader (u : List Char) : Prop :=
  ∃ decl, readStatement u = .ok (.container decl) ∧ decl.closed = false

namespace SourceLine

/-- True when the line opens a block: a container that is not closed on its line, whether or not it
is accepted, or a line that is no statement, does not begin with a closing brace and ends with an
opening one. -/
def opens (line : SourceLine) : Bool :=
  match readStatement line.text with
  | .ok (.container decl) => !decl.closed
  | .error _ => line.text.head? ≠ some closeBrace && line.text.getLast? = some openBrace
  | _ => false

/-- True when the line closes a block: a closing brace, or a line that is no statement and begins
with one. -/
def closes (line : SourceLine) : Bool :=
  match readStatement line.text with
  | .ok .close => true
  | .error _ => line.text.head? = some closeBrace
  | _ => false

theorem closes_of_opens {line : SourceLine} (h : line.opens = true) : line.closes = false := by
  rw [opens] at h
  rw [closes]
  split at h
  · next hr => rw [hr]
  · next hr =>
    rw [hr]
    simp only [Bool.and_eq_true, decide_eq_true_eq] at h
    simpa using h.1
  · contradiction

end SourceLine

/-- The lines keep a block open under which `depth` others are open: no front of them closes more
blocks than were opened in it and before. -/
def KeepsOpen (depth : Nat) (lines : List SourceLine) : Prop :=
  ∀ front, front <+: lines →
    front.countP SourceLine.closes ≤ front.countP SourceLine.opens + depth

/-- The line opens a block that the lines after it leave open. -/
def StillOpen (line : SourceLine) (after : List SourceLine) : Prop :=
  line.opens = true ∧ KeepsOpen 0 after

/-- The lines of the open blocks, the innermost first, after one more line. -/
def pushBlock (blocks : List SourceLine) (line : SourceLine) : List SourceLine :=
  if line.closes then blocks.tail else if line.opens then line :: blocks else blocks

section Stack

variable {line : SourceLine} {lines blocks : List SourceLine} {depth : Nat}

theorem length_pushBlock (blocks : List SourceLine) (line : SourceLine) :
    (pushBlock blocks line).length =
      if line.closes then blocks.length - 1 else if line.opens then blocks.length +
        1 else blocks.length := by
  rw [pushBlock]
  split_ifs <;> simp

theorem keepsOpen_nil : KeepsOpen depth [] := by
  intro front h
  simp [List.prefix_nil.mp h]

/-- One line on: a closing line uses up one block under the one in question. -/
theorem keepsOpen_cons : KeepsOpen depth (line :: lines) ↔
    if line.closes then 0 < depth ∧ KeepsOpen (depth - 1) lines
    else KeepsOpen (if line.opens then depth + 1 else depth) lines := by
  by_cases hc : line.closes = true
  · have ho : line.opens = false := by
      by_contra ho
      rw [SourceLine.closes_of_opens (by simpa using ho)] at hc
      contradiction
    rw [if_pos hc]
    constructor
    · intro h
      have hd := h [line] (by simp)
      simp only [List.countP_singleton, hc, ho, if_true, Bool.false_eq_true, if_false] at hd
      refine ⟨by omega, fun front hf => ?_⟩
      have hl := h (line :: front) (List.cons_prefix_cons.mpr ⟨rfl, hf⟩)
      simp only [List.countP_cons, hc, ho, if_true, Bool.false_eq_true, if_false] at hl
      omega
    · intro hm front hf
      obtain ⟨hd, h⟩ := hm
      rcases List.prefix_cons_iff.mp hf with rfl | ⟨front, rfl, hp⟩
      · simp
      · have hl := h front hp
        simp only [List.countP_cons, hc, ho, if_true, Bool.false_eq_true, if_false]
        omega
  · rw [if_neg hc]
    constructor
    · intro h front hf
      have hl := h (line :: front) (List.cons_prefix_cons.mpr ⟨rfl, hf⟩)
      simp only [List.countP_cons, hc, Bool.false_eq_true, if_false] at hl
      split_ifs at hl ⊢ <;> omega
    · intro h front hf
      rcases List.prefix_cons_iff.mp hf with rfl | ⟨front, rfl, hp⟩
      · simp
      · have hl := h front hp
        simp only [List.countP_cons, hc, Bool.false_eq_true, if_false]
        split_ifs at hl ⊢ <;> omega

theorem mem_foldl_pushBlock {x : SourceLine} (h : x ∈ lines.foldl pushBlock blocks) :
    x ∈ blocks ∨ x ∈ lines ∧ x.opens = true := by
  induction lines generalizing blocks with
  | nil => exact Or.inl h
  | cons line lines ih =>
    rcases ih h with hx | hx
    · rw [pushBlock] at hx
      split_ifs at hx with hc ho
      · exact Or.inl (List.mem_of_mem_tail hx)
      · rcases List.mem_cons.mp hx with rfl | hx
        · exact Or.inr ⟨by simp, ho⟩
        · exact Or.inl hx
      · exact Or.inl hx
    · exact Or.inr ⟨List.mem_cons_of_mem _ hx.1, hx.2⟩

/-- Outer blocks that the lines keep open are not touched. -/
theorem foldl_pushBlock_append (inner : List SourceLine) (h : KeepsOpen inner.length lines) :
    lines.foldl pushBlock (inner ++ blocks) = lines.foldl pushBlock inner ++ blocks := by
  induction lines generalizing inner with
  | nil => rfl
  | cons line lines ih =>
    rw [keepsOpen_cons] at h
    rw [List.foldl_cons, List.foldl_cons]
    by_cases hc : line.closes = true
    · rw [if_pos hc] at h
      obtain ⟨x, inner, rfl⟩ := List.exists_cons_of_length_pos h.1
      simp only [pushBlock, if_pos hc]
      exact ih inner h.2
    · rw [if_neg hc] at h
      by_cases ho : line.opens = true
      · simp only [pushBlock, if_neg hc, if_pos ho]
        rw [if_pos ho] at h
        exact ih (line :: inner) h
      · simp only [pushBlock, if_neg hc, if_neg ho]
        rw [if_neg ho] at h
        exact ih inner h

/-- A block that the lines do not keep open is gone after them. -/
theorem foldl_pushBlock_closed {x y : SourceLine} (inner : List SourceLine)
    (h : ¬KeepsOpen inner.length lines) (hy : y ∈ lines.foldl pushBlock (inner ++ x :: blocks)) :
    y ∈ blocks ∨ y ∈ lines := by
  induction lines generalizing inner with
  | nil => exact absurd keepsOpen_nil h
  | cons line lines ih =>
    rw [keepsOpen_cons] at h
    rw [List.foldl_cons] at hy
    by_cases hc : line.closes = true
    · rw [if_pos hc] at h
      cases inner with
      | nil =>
        simp only [pushBlock, if_pos hc, List.nil_append, List.tail_cons] at hy
        exact (mem_foldl_pushBlock hy).imp_right fun hm => List.mem_cons_of_mem _ hm.1
      | cons z inner =>
        simp only [pushBlock, if_pos hc, List.cons_append, List.tail_cons] at hy
        refine (ih inner ?_ hy).imp_right (List.mem_cons_of_mem _)
        simpa using h
    · rw [if_neg hc] at h
      by_cases ho : line.opens = true
      · simp only [pushBlock, if_neg hc, if_pos ho] at hy
        rw [if_pos ho] at h
        exact (ih (line :: inner) h hy).imp_right (List.mem_cons_of_mem _)
      · simp only [pushBlock, if_neg hc, if_neg ho] at hy
        rw [if_neg ho] at h
        exact (ih inner h hy).imp_right (List.mem_cons_of_mem _)

/-- The open blocks are those whose lines the lines after them leave open. -/
theorem mem_openBlocks_iff (hn : lines.Nodup) {x : SourceLine} :
    x ∈ lines.foldl pushBlock [] ↔
      ∃ before after, lines = before ++ x :: after ∧ StillOpen x after := by
  have hsplit {before after : List SourceLine} (ho : x.opens = true) :
      (before ++ x :: after).foldl pushBlock [] =
        after.foldl pushBlock (x :: before.foldl pushBlock []) := by
    rw [List.foldl_append, List.foldl_cons]
    simp only [pushBlock, SourceLine.closes_of_opens ho, ho, if_true, Bool.false_eq_true, if_false]
  constructor
  · intro hx
    obtain ⟨hm, ho⟩ := (mem_foldl_pushBlock hx).resolve_left List.not_mem_nil
    obtain ⟨before, after, rfl⟩ := List.append_of_mem hm
    refine ⟨before, after, rfl, ho, ?_⟩
    by_contra hk
    rw [hsplit ho] at hx
    have hn' := List.nodup_middle.mp hn
    rw [List.nodup_cons, List.mem_append] at hn'
    rcases foldl_pushBlock_closed [] hk hx with hb | ha
    · exact hn'.1 (Or.inl ((mem_foldl_pushBlock hb).resolve_left List.not_mem_nil).1)
    · exact hn'.1 (Or.inr ha)
  · intro h
    obtain ⟨before, after, rfl, ho, hk⟩ := h
    rw [hsplit ho, ← List.nil_append (x :: _), foldl_pushBlock_append [] hk]
    simp

/-- The open blocks come in the order of their lines, the outermost first. -/
theorem foldl_pushBlock_sublist :
    (lines.foldl pushBlock blocks).reverse.Sublist (blocks.reverse ++ lines) := by
  induction lines generalizing blocks with
  | nil => simp
  | cons line lines ih =>
    refine ih.trans ?_
    rw [pushBlock]
    split_ifs
    · exact (List.tail_sublist blocks).reverse.append (List.sublist_cons_self line lines)
    · simp
    · exact (List.Sublist.refl _).append (List.sublist_cons_self line lines)

end Stack

namespace Progress

variable {α : Type}

/-- The lines of the open blocks, the innermost first. -/
def blockLines (p : Progress α) : List SourceLine := p.blocks.map (·.line)

theorem close_blockLines (p : Progress α) (line : SourceLine) :
    (p.close line).blockLines = p.blockLines.tail := by
  rw [close, blockLines, blockLines]
  split
  · next hb => simp [fault, hb]
  · next hb => simp [hb]

theorem matchBraces_blockLines (p : Progress α) (line : SourceLine) :
    (p.matchBraces line).blockLines =
      if line.text.head? = some closeBrace then p.blockLines.tail
      else if line.text.getLast? = some openBrace then line :: p.blockLines
      else p.blockLines := by
  rw [matchBraces]
  split_ifs <;> simp [blockLines, openBlock]

variable [Scalar α]

theorem addNode_blockLines (p : Progress α) (line : SourceLine) (decl : NodeDecl) :
    (p.addNode line decl).blockLines = p.blockLines := by
  rw [addNode]
  split
  · rfl
  · split <;> rfl

theorem addContainer_blockLines (p : Progress α) (line : SourceLine) (decl : ContainerDecl) :
    (p.addContainer line decl).blockLines =
      if decl.closed then p.blockLines else line :: p.blockLines := by
  rw [addContainer]
  split
  · dsimp only
    split <;> rfl
  · dsimp only
    split <;> split <;> rfl

/-- The blocks of a run depend on its lines only. -/
theorem step_blockLines (p : Progress α) (line : SourceLine) :
    (p.step line).blockLines = pushBlock p.blockLines line := by
  cases hr : readStatement line.text with
  | error e =>
    simp only [step, hr, matchBraces_blockLines, pushBlock, SourceLine.opens, SourceLine.closes]
    by_cases hc : line.text.head? = some closeBrace
    · simp [hc, fault, blockLines]
    · simp [hc, fault, blockLines]
  | ok statement =>
    cases statement with
    | node decl =>
      simp [step, hr, addNode_blockLines, pushBlock, SourceLine.opens, SourceLine.closes]
    | link decl => simp [step, hr, blockLines, pushBlock, SourceLine.opens, SourceLine.closes]
    | container decl =>
      simp only [step, hr, addContainer_blockLines, pushBlock, SourceLine.opens, SourceLine.closes]
      cases decl.closed <;> simp
    | close => simp [step, hr, close_blockLines, pushBlock, SourceLine.closes]

theorem run_blockLines (p : Progress α) (lines : List SourceLine) :
    (lines.foldl step p).blockLines = lines.foldl pushBlock p.blockLines := by
  induction lines generalizing p with
  | nil => rfl
  | cons line lines ih => rw [List.foldl_cons, ih, step_blockLines, List.foldl_cons]

end Progress

end ArchDiagram.Source
