import ArchDiagram.Proofs.Source.Blocks
import ArchDiagram.Proofs.Source.Lines
import ArchDiagram.Proofs.Source.WellFormed

namespace ArchDiagram.Source

/-- The line declares a node of the id with a known icon. The first such line is accepted. -/
def SourceLine.DeclaresNode (line : SourceLine) (id : String) : Prop :=
  ∃ decl, readStatement line.text = .ok (.node decl) ∧ Icon.ofName? decl.icon ≠ none ∧ decl.id = id

/-- The line declares a container of the id with a known kind. The first such line is accepted. -/
def SourceLine.DeclaresContainer (line : SourceLine) (id : String) : Prop :=
  ∃ decl, readStatement line.text = .ok (.container decl) ∧ ContainerKind.ofName? decl.kind ≠ none ∧
    decl.id = id

/-- One of the lines is accepted as the declaration of the id: it declares it, and no line before
it does. -/
def Accepted (declares : SourceLine → String → Prop) (lines : List SourceLine) (id : String) :
    Prop :=
  ∃ before line after, lines = before ++ line :: after ∧ declares line id ∧
    ∀ earlier ∈ before, ¬declares earlier id

/-- The faults of a line between others. -/
inductive LineFault (before : List SourceLine) (line : SourceLine) (after : List SourceLine) :
    Fault → Prop
  | statement {error : StatementError} :
      readStatement line.text = .error error → LineFault before line after (.statement error)
  | unknownIcon {decl : NodeDecl} :
      readStatement line.text = .ok (.node decl) → Icon.ofName? decl.icon = none →
      LineFault before line after (.unknownIcon decl.icon)
  | duplicateNode {decl : NodeDecl} :
      readStatement line.text = .ok (.node decl) → Icon.ofName? decl.icon ≠ none →
      Accepted SourceLine.DeclaresNode before decl.id →
      LineFault before line after (.duplicateNode decl.id)
  | unknownKind {decl : ContainerDecl} :
      readStatement line.text = .ok (.container decl) → ContainerKind.ofName? decl.kind = none →
      LineFault before line after (.unknownKind decl.kind)
  | duplicateContainer {decl : ContainerDecl} :
      readStatement line.text = .ok (.container decl) → ContainerKind.ofName? decl.kind ≠ none →
      Accepted SourceLine.DeclaresContainer before decl.id →
      LineFault before line after (.duplicateContainer decl.id)
  | strayClose :
      readStatement line.text = .ok .close →
      (∀ front block back, before = front ++ block :: back → ¬StillOpen block back) →
      LineFault before line after .strayClose
  | unclosed : StillOpen line after → LineFault before line after .unclosed
  | unknownSource {decl : LinkDecl} :
      readStatement line.text = .ok (.link decl) →
      ¬Accepted SourceLine.DeclaresNode (before ++ line :: after) decl.source →
      LineFault before line after (.unknownNode decl.source)
  | unknownTarget {decl : LinkDecl} :
      readStatement line.text = .ok (.link decl) →
      Accepted SourceLine.DeclaresNode (before ++ line :: after) decl.source →
      ¬Accepted SourceLine.DeclaresNode (before ++ line :: after) decl.target →
      LineFault before line after (.unknownNode decl.target)

/-- An error that tells a fault of one of the lines. -/
def Tells (lines : List SourceLine) (e : LineError) : Prop :=
  ∃ before line after fault, lines = before ++ line :: after ∧ LineFault before line after fault ∧
    e = line.error fault

/-- The order of errors: by line, and on one line an unclosed block comes last. -/
def Earlier (a b : LineError) : Prop :=
  a.line < b.line ∨ (a.line = b.line ∧ a.fault ≠ .unclosed ∧ b.fault = .unclosed)

theorem SourceLine.link?_eq_some_iff {line : SourceLine} {decl : LinkDecl} :
    line.link? = some decl ↔ readStatement line.text = .ok (.link decl) := by
  rw [SourceLine.link?]
  split <;> simp_all

theorem accepted_iff {declares : SourceLine → String → Prop} {lines : List SourceLine}
    {id : String} :
    Accepted declares lines id ↔ ∃ line ∈ lines, declares line id := by
  constructor
  · intro hm
    obtain ⟨before, line, after, rfl, hd, -⟩ := hm
    exact ⟨line, by simp, hd⟩
  · intro h
    induction lines with
    | nil => simp at h
    | cons first lines ih =>
      by_cases hf : declares first id
      · exact ⟨[], first, lines, rfl, hf, by simp⟩
      · obtain ⟨line, hl, hd⟩ := h
        rcases List.mem_cons.mp hl with rfl | hl
        · contradiction
        · obtain ⟨before, line, after, rfl, hd, hb⟩ := ih ⟨line, hl, hd⟩
          refine ⟨first :: before, line, after, rfl, hd, ?_⟩
          intro earlier he
          rcases List.mem_cons.mp he with rfl | he
          · exact hf
          · exact hb earlier he

namespace Progress

variable {α : Type} [Scalar α]

theorem mem_nodeIds_addNode (p : Progress α) (line : SourceLine) (decl : NodeDecl) (id : String) :
    id ∈ (p.addNode line decl).nodeIds ↔
      id ∈ p.nodeIds ∨ (Icon.ofName? decl.icon ≠ none ∧ decl.id = id) := by
  simp only [addNode, any_nodes, decide_eq_true_eq]
  cases hi : Icon.ofName? decl.icon with
  | none => simp [fault, nodeIds]
  | some icon =>
    by_cases hd : decl.id ∈ p.nodeIds
    · simp only [if_pos hd, ne_eq, reduceCtorEq, not_false_eq_true, true_and]
      exact ⟨Or.inl, fun h => h.elim (fun h => h) fun h => h ▸ hd⟩
    · simp only [if_neg hd]
      simp [nodeIds, nodeOf, eq_comm]

theorem mem_containerIds_addContainer (p : Progress α) (line : SourceLine) (decl : ContainerDecl)
    (id : String) :
    id ∈ (p.addContainer line decl).containerIds ↔
      id ∈ p.containerIds ∨ (ContainerKind.ofName? decl.kind ≠ none ∧ decl.id = id) := by
  simp only [addContainer, any_containers, decide_eq_true_eq]
  cases hk : ContainerKind.ofName? decl.kind with
  | none => cases decl.closed <;> simp [fault, containerIds, openBlock]
  | some kind =>
    by_cases hd : decl.id ∈ p.containerIds
    · have hin : id ∈ p.containerIds ↔ id ∈ p.containerIds ∨ decl.id = id :=
        ⟨Or.inl, fun h => h.elim (fun h => h) fun h => h ▸ hd⟩
      simp only [if_pos hd, ne_eq, reduceCtorEq, not_false_eq_true, true_and, ← hin]
      cases decl.closed <;> exact Iff.rfl
    · simp only [if_neg hd]
      cases decl.closed <;> simp [containerIds, containerOf, openBlock, eq_comm]

theorem mem_nodeIds_step (p : Progress α) (line : SourceLine) (id : String) :
    id ∈ (p.step line).nodeIds ↔ id ∈ p.nodeIds ∨ line.DeclaresNode id := by
  cases hr : readStatement line.text with
  | error e => simp [step, hr, SourceLine.DeclaresNode, nodeIds, matchBraces_frame, fault]
  | ok statement =>
    cases statement with
    | node decl => simp [step, hr, SourceLine.DeclaresNode, mem_nodeIds_addNode]
    | link decl => simp [step, hr, SourceLine.DeclaresNode, nodeIds]
    | container decl => simp [step, hr, SourceLine.DeclaresNode, nodeIds, addContainer_frame]
    | close => simp [step, hr, SourceLine.DeclaresNode, nodeIds, close_frame]

theorem mem_containerIds_step (p : Progress α) (line : SourceLine) (id : String) :
    id ∈ (p.step line).containerIds ↔ id ∈ p.containerIds ∨ line.DeclaresContainer id := by
  cases hr : readStatement line.text with
  | error e => simp [step, hr, SourceLine.DeclaresContainer, containerIds, matchBraces_frame, fault]
  | ok statement =>
    cases statement with
    | node decl => simp [step, hr, SourceLine.DeclaresContainer, addNode_frame]
    | link decl => simp [step, hr, SourceLine.DeclaresContainer, containerIds]
    | container decl => simp [step, hr, SourceLine.DeclaresContainer, mem_containerIds_addContainer]
    | close => simp [step, hr, SourceLine.DeclaresContainer, containerIds, close_frame]

/-- Lines add the ids that each of them adds. -/
theorem mem_ids_run_iff {ids : Progress α → List String} {declares : SourceLine → String → Prop}
    {id : String} (hs : ∀ p line, id ∈ ids (step p line) ↔ id ∈ ids p ∨ declares line id)
    (lines : List SourceLine) (p : Progress α) :
    id ∈ ids (lines.foldl step p) ↔ id ∈ ids p ∨ ∃ line ∈ lines, declares line id := by
  induction lines generalizing p with
  | nil => simp
  | cons line lines ih => simp [ih, hs, or_assoc]

/-- Ids that a line adds exactly if it declares them are, after all lines, those of the accepted
declarations. -/
theorem mem_run_iff {ids : Progress α → List String} {declares : SourceLine → String → Prop}
    {id : String}
    (hs : ∀ p line, id ∈ ids (step p line) ↔ id ∈ ids p ∨ declares line id) (he : ids {} = [])
    (lines : List SourceLine) : id ∈ ids (lines.foldl step {}) ↔ Accepted declares lines id := by
  rw [mem_ids_run_iff hs, accepted_iff, he]
  exact or_iff_right List.not_mem_nil

theorem mem_nodeIds_run (lines : List SourceLine) (id : String) :
    id ∈ (lines.foldl step ({} : Progress α)).nodeIds ↔ Accepted SourceLine.DeclaresNode lines id :=
  mem_run_iff (fun p line => p.mem_nodeIds_step line id) rfl lines

theorem mem_containerIds_run (lines : List SourceLine) (id : String) :
    id ∈ (lines.foldl step ({} : Progress α)).containerIds ↔
      Accepted SourceLine.DeclaresContainer lines id :=
  mem_run_iff (fun p line => p.mem_containerIds_step line id) rfl lines

omit [Scalar α] in
/-- The fault that is noted as soon as a line is taken. -/
def ownFault? (p : Progress α) (line : SourceLine) : Option Fault :=
  match readStatement line.text with
  | .error error => some (.statement error)
  | .ok (.node decl) =>
    if Icon.ofName? decl.icon = none then some (.unknownIcon decl.icon)
    else if decl.id ∈ p.nodeIds then some (.duplicateNode decl.id)
    else none
  | .ok (.container decl) =>
    if ContainerKind.ofName? decl.kind = none then some (.unknownKind decl.kind)
    else if decl.id ∈ p.containerIds then some (.duplicateContainer decl.id)
    else none
  | .ok .close => if p.blocks = [] then some .strayClose else none
  | .ok (.link _) => none

theorem addNode_errors (p : Progress α) (line : SourceLine) (decl : NodeDecl)
    (hr : readStatement line.text = .ok (.node decl)) :
    (p.addNode line decl).errors = p.errors ++ ((p.ownFault? line).map line.error).toList := by
  simp only [addNode, ownFault?, hr, any_nodes]
  cases hi : Icon.ofName? decl.icon with
  | none => simp [fault]
  | some icon =>
    by_cases hm : decl.id ∈ p.nodeIds <;> simp [hm, fault]

theorem addContainer_errors (p : Progress α) (line : SourceLine) (decl : ContainerDecl)
    (hr : readStatement line.text = .ok (.container decl)) :
    (p.addContainer line decl).errors = p.errors ++ ((p.ownFault? line).map line.error).toList := by
  simp only [addContainer, ownFault?, hr, any_containers]
  cases hk : ContainerKind.ofName? decl.kind with
  | none => cases decl.closed <;> simp [fault, openBlock]
  | some kind =>
    by_cases hm : decl.id ∈ p.containerIds <;> cases decl.closed <;> simp [hm, fault, openBlock]

theorem step_errors (p : Progress α) (line : SourceLine) :
    (p.step line).errors = p.errors ++ ((p.ownFault? line).map line.error).toList := by
  cases hr : readStatement line.text with
  | error e => simp [step, hr, ownFault?, matchBraces_frame, fault]
  | ok statement =>
    cases statement with
    | node decl => simpa [step, hr] using p.addNode_errors line decl hr
    | link decl => simp [step, hr, ownFault?]
    | container decl => simpa [step, hr] using p.addContainer_errors line decl hr
    | close =>
      simp only [step, hr, ownFault?, close]
      cases p.blocks <;> simp [fault]

/-- The faults that are noted while lines are taken, each with its line. -/
def noted (p : Progress α) : List SourceLine → List (SourceLine × Fault)
  | [] => []
  | line :: lines => ((p.ownFault? line).map (line, ·)).toList ++ (p.step line).noted lines

theorem run_errors (p : Progress α) (lines : List SourceLine) :
    (lines.foldl step p).errors = p.errors ++ (p.noted lines).map fun item =>
      item.1.error item.2 := by
  induction lines generalizing p with
  | nil => simp [noted]
  | cons line lines ih =>
    rw [List.foldl_cons, ih, step_errors, noted, List.map_append, List.append_assoc]
    cases p.ownFault? line <;> rfl

/-- Errors are not taken back. -/
theorem errors_eq_nil_of_run {p : Progress α} {lines : List SourceLine}
    (h : (lines.foldl step p).errors = []) : p.errors = [] := by
  rw [run_errors, List.append_eq_nil_iff] at h
  exact h.1

theorem mem_noted_iff {p : Progress α} {lines : List SourceLine} {line : SourceLine}
    {fault : Fault} :
    (line, fault) ∈ p.noted lines ↔
      ∃ before after, lines = before ++ line :: after ∧
        (before.foldl step p).ownFault? line = some fault := by
  induction lines generalizing p with
  | nil => simp [noted]
  | cons first lines ih =>
    simp only [noted, List.mem_append, Option.mem_toList, Option.map_eq_some_iff, Prod.mk.injEq, ih]
    constructor
    · intro h
      rcases h with ⟨fault, hf, rfl, rfl⟩ | ⟨before, after, rfl, hf⟩
      · exact ⟨[], lines, rfl, hf⟩
      · exact ⟨first :: before, after, rfl, hf⟩
    · intro h
      obtain ⟨before, after, he, hf⟩ := h
      cases before with
      | nil =>
        obtain ⟨rfl, rfl⟩ := List.cons.inj he
        exact Or.inl ⟨fault, hf, rfl, rfl⟩
      | cons other before =>
        obtain ⟨rfl, rfl⟩ := List.cons.inj he
        exact Or.inr ⟨before, after, rfl, hf⟩

theorem noted_sublist (p : Progress α) (lines : List SourceLine) :
    ((p.noted lines).map (·.1)).Sublist lines := by
  induction lines generalizing p with
  | nil => simp [noted]
  | cons line lines ih =>
    rw [noted, List.map_append]
    cases p.ownFault? line with
    | none => exact (ih _).cons _
    | some fault => exact (ih _).cons_cons _

theorem blockLines_run (lines : List SourceLine) :
    (lines.foldl step ({} : Progress α)).blockLines = lines.foldl pushBlock [] :=
  run_blockLines {} lines

theorem mem_blockErrors_iff {lines : List SourceLine} (hn : lines.Nodup) {e : LineError} :
    e ∈ (lines.foldl step ({} : Progress α)).blockErrors ↔
      ∃ before line after, lines = before ++ line :: after ∧ StillOpen line after ∧
        e = line.error .unclosed := by
  have hb : (lines.foldl step ({} : Progress α)).blockErrors =
      (lines.foldl pushBlock []).reverse.map (·.error .unclosed) := by
    rw [← blockLines_run (α := α), blockErrors, blockLines, ← List.map_reverse, List.map_map]
    rfl
  rw [hb]
  simp only [List.mem_map, List.mem_reverse, mem_openBlocks_iff hn]
  constructor
  · intro h
    obtain ⟨line, ⟨before, after, rfl, ho⟩, rfl⟩ := h
    exact ⟨before, line, after, rfl, ho, rfl⟩
  · intro h
    obtain ⟨before, line, after, rfl, ho, rfl⟩ := h
    exact ⟨line, ⟨before, after, rfl, ho⟩, rfl⟩

omit [Scalar α] in
theorem unknownEnd?_eq_some_iff (p : Progress α) (decl : LinkDecl) (id : String) :
    p.unknownEnd? decl = some id ↔
      (decl.source ∉ p.nodeIds ∧ id = decl.source) ∨
      (decl.source ∈ p.nodeIds ∧ decl.target ∉ p.nodeIds ∧ id = decl.target) := by
  rw [unknownEnd?, List.find?_cons]
  by_cases hs : decl.source ∈ p.nodeIds
  · by_cases ht : decl.target ∈ p.nodeIds <;> simp [hs, ht, eq_comm]
  · simp [hs, eq_comm]

theorem mem_linkErrors_iff {lines : List SourceLine} {e : LineError} :
    e ∈ (lines.foldl step ({} : Progress α)).linkErrors ↔
      ∃ line ∈ lines, ∃ decl id, readStatement line.text = .ok (.link decl) ∧
        (lines.foldl step ({} : Progress α)).unknownEnd? decl = some id ∧
        e = line.error (.unknownNode id) := by
  rw [linkErrors, run_links]
  simp only [List.nil_append, List.mem_filterMap, Option.map_eq_some_iff,
    SourceLine.link?_eq_some_iff]
  constructor
  · intro h
    obtain ⟨_, ⟨line, hl, decl, hd, rfl⟩, id, hu, rfl⟩ := h
    exact ⟨line, hl, decl, id, hd, hu, rfl⟩
  · intro h
    obtain ⟨line, hl, decl, id, hd, hu, rfl⟩ := h
    exact ⟨_, ⟨line, hl, decl, hd, rfl⟩, id, hu, rfl⟩

theorem blocks_run_eq_nil_iff {lines : List SourceLine} (hn : lines.Nodup) :
    (lines.foldl step ({} : Progress α)).blocks = [] ↔
      ∀ before line after, lines = before ++ line :: after → ¬StillOpen line after := by
  have hb : (lines.foldl step ({} : Progress α)).blocks = [] ↔ lines.foldl pushBlock [] = [] := by
    rw [← blockLines_run (α := α), blockLines, List.map_eq_nil_iff]
  rw [hb, List.eq_nil_iff_forall_not_mem]
  simp only [mem_openBlocks_iff hn, not_exists, not_and]
  exact forall_comm

theorem lineFault_of_ownFault? {before : List SourceLine} {line : SourceLine} {fault : Fault}
    (hn : before.Nodup) (after : List SourceLine)
    (h : (before.foldl step ({} : Progress α)).ownFault? line = some fault) :
    LineFault before line after fault := by
  rw [ownFault?] at h
  split at h
  · next hr =>
    obtain rfl := Option.some.inj h
    exact .statement hr
  · next hr =>
    split_ifs at h with hi ha
    · obtain rfl := Option.some.inj h
      exact .unknownIcon hr hi
    · obtain rfl := Option.some.inj h
      exact .duplicateNode hr hi ((mem_nodeIds_run _ _).mp ha)
  · next hr =>
    split_ifs at h with hi ha
    · obtain rfl := Option.some.inj h
      exact .unknownKind hr hi
    · obtain rfl := Option.some.inj h
      exact .duplicateContainer hr hi ((mem_containerIds_run _ _).mp ha)
  · next hr =>
    split_ifs at h with ho
    obtain rfl := Option.some.inj h
    exact .strayClose hr ((blocks_run_eq_nil_iff hn).mp ho)
  · contradiction

/-- A fault is noted when its line is taken, when a block stays open, or when a link is resolved. -/
theorem lineFault_iff {before after : List SourceLine} {line : SourceLine} {fault : Fault}
    (hn : before.Nodup) :
    LineFault before line after fault ↔
      (before.foldl step ({} : Progress α)).ownFault? line = some fault ∨
      (StillOpen line after ∧ fault = .unclosed) ∨
      ∃ decl id, readStatement line.text = .ok (.link decl) ∧
        ((before ++ line :: after).foldl step ({} : Progress α)).unknownEnd? decl = some id ∧
        fault = .unknownNode id := by
  simp only [unknownEnd?_eq_some_iff, mem_nodeIds_run]
  constructor
  · intro hm
    cases hm with
    | statement hr => exact Or.inl (by simp [ownFault?, hr])
    | unknownIcon hr hi => exact Or.inl (by simp [ownFault?, hr, hi])
    | duplicateNode hr hi ha => exact Or.inl (by simp [ownFault?, hr, hi, mem_nodeIds_run, ha])
    | unknownKind hr hk => exact Or.inl (by simp [ownFault?, hr, hk])
    | duplicateContainer hr hk ha =>
      exact Or.inl (by simp [ownFault?, hr, hk, mem_containerIds_run, ha])
    | strayClose hr ho => exact Or.inl (by simp [ownFault?, hr, (blocks_run_eq_nil_iff hn).mpr ho])
    | unclosed ho => exact Or.inr (Or.inl ⟨ho, rfl⟩)
    | unknownSource hr hs => exact Or.inr (Or.inr ⟨_, _, hr, Or.inl ⟨hs, rfl⟩, rfl⟩)
    | unknownTarget hr hs ht => exact Or.inr (Or.inr ⟨_, _, hr, Or.inr ⟨hs, ht, rfl⟩, rfl⟩)
  · intro hm
    rcases hm with h | ⟨ho, rfl⟩ | ⟨decl, _, hr, ⟨hs, rfl⟩ | ⟨hs, ht, rfl⟩, rfl⟩
    · exact lineFault_of_ownFault? hn after h
    · exact .unclosed ho
    · exact .unknownSource hr hs
    · exact .unknownTarget hr hs ht

/-- The errors of a run before they are put in order. -/
theorem mem_errors_iff {lines : List SourceLine} (hn : lines.Nodup) {e : LineError} :
    let p := lines.foldl step ({} : Progress α)
    e ∈ p.errors ++ p.blockErrors ++ p.linkErrors ↔ Tells lines e := by
  simp only [List.mem_append, mem_blockErrors_iff hn, mem_linkErrors_iff, run_errors,
    List.nil_append, List.mem_map, Prod.exists, mem_noted_iff]
  constructor
  · intro hm
    rcases hm with (hm | hm) | hm
    · obtain ⟨line, fault, ⟨before, after, rfl, hf⟩, rfl⟩ := hm
      refine ⟨before, line, after, fault, rfl, ?_, rfl⟩
      exact (lineFault_iff (α := α) hn.of_append_left).mpr (Or.inl hf)
    · obtain ⟨before, line, after, rfl, ho, rfl⟩ := hm
      exact ⟨before, line, after, _, rfl, .unclosed ho, rfl⟩
    · obtain ⟨line, hl, decl, id, hr, hu, rfl⟩ := hm
      obtain ⟨before, after, rfl⟩ := List.append_of_mem hl
      refine ⟨before, line, after, _, rfl, ?_, rfl⟩
      exact (lineFault_iff (α := α) hn.of_append_left).mpr (Or.inr (Or.inr ⟨decl, id, hr, hu, rfl⟩))
  · intro hm
    obtain ⟨before, line, after, fault, rfl, hf, rfl⟩ := hm
    rcases (lineFault_iff (α := α) hn.of_append_left).mp hf with
      h | ⟨ho, rfl⟩ | ⟨decl, id, hr, hu, rfl⟩
    · exact Or.inl (Or.inl ⟨line, fault, ⟨before, after, rfl, h⟩, rfl⟩)
    · exact Or.inl (Or.inr ⟨before, line, after, rfl, ho, rfl⟩)
    · exact Or.inr ⟨line, by simp, decl, id, hr, hu, rfl⟩

omit [Scalar α] in
theorem ownFault?_ne_unclosed (p : Progress α) (line : SourceLine) :
    p.ownFault? line ≠ some .unclosed := by
  rw [ownFault?]
  split
  · simp
  · split_ifs <;> simp
  · split_ifs <;> simp
  · split_ifs <;> simp
  · simp

omit [Scalar α] in
theorem ownFault?_of_link {p : Progress α} {line : SourceLine} {decl : LinkDecl}
    (hr : readStatement line.text = .ok (.link decl)) : p.ownFault? line = none := by
  simp [ownFault?, hr]

section Order

variable {lines : List SourceLine} (hl : lines.Pairwise (·.number < ·.number))

theorem mem_run_errors {e : LineError} (he : e ∈ (lines.foldl step ({} : Progress α)).errors) :
    ∃ line ∈ lines, ∃ (q : Progress α) (fault : Fault),
      q.ownFault? line = some fault ∧ e = line.error fault := by
  rw [run_errors, List.nil_append, List.mem_map] at he
  obtain ⟨⟨line, fault⟩, hm, rfl⟩ := he
  obtain ⟨before, after, rfl, hf⟩ := mem_noted_iff.mp hm
  exact ⟨line, by simp, _, fault, hf, rfl⟩

include hl

theorem run_errors_line_lt :
    (lines.foldl step ({} : Progress α)).errors.Pairwise (·.line < ·.line) := by
  have hs := List.pairwise_map.mp (hl.sublist (noted_sublist ({} : Progress α) lines))
  rw [run_errors, List.nil_append, List.pairwise_map]
  exact hs

theorem blockErrors_line_lt :
    (lines.foldl step ({} : Progress α)).blockErrors.Pairwise (·.line < ·.line) := by
  have hs : (lines.foldl step ({} : Progress α)).blockLines.reverse.Sublist lines := by
    rw [blockLines_run]
    exact foldl_pushBlock_sublist
  rw [blockLines, ← List.map_reverse] at hs
  have hlt := List.pairwise_map.mp (hl.sublist hs)
  rw [blockErrors, List.pairwise_map]
  exact hlt

theorem linkErrors_line_lt :
    (lines.foldl step ({} : Progress α)).linkErrors.Pairwise (·.line < ·.line) := by
  rw [linkErrors, run_links, List.nil_append, List.filterMap_filterMap]
  refine hl.filterMap _ ?_
  intro x y hxy a ha b hb
  simp only [Option.bind_map, Option.bind_eq_some_iff, Function.comp_apply, Option.map_eq_some_iff]
    at ha hb
  obtain ⟨-, -, -, -, rfl⟩ := ha
  obtain ⟨-, -, -, -, rfl⟩ := hb
  exact hxy

/-- On one line there is at most the fault that was noted when it was taken, or that of its link,
and then that of its block. -/
theorem errors_pairwise :
    let p := lines.foldl step ({} : Progress α)
    (p.errors ++ p.blockErrors ++ p.linkErrors).Pairwise fun a b =>
      a.line = b.line → a.fault ≠ .unclosed ∧ b.fault = .unclosed := by
  intro p
  have hne {a b : LineError} (h : a.line < b.line) :
      a.line = b.line → a.fault ≠ .unclosed ∧ b.fault = .unclosed := fun he => absurd he h.ne
  have hblock {e : LineError} (he : e ∈ p.blockErrors) :
      ∃ line ∈ lines, line.opens = true ∧ e = line.error .unclosed := by
    obtain ⟨before, line, after, rfl, ho, rfl⟩ :=
      (mem_blockErrors_iff (nodup_of_number_lt hl)).mp he
    exact ⟨line, by simp, ho.1, rfl⟩
  rw [List.pairwise_append, List.pairwise_append]
  refine ⟨⟨?_, ?_, ?_⟩, ?_, ?_⟩
  · exact (run_errors_line_lt hl).imp fun h => hne h
  · exact (blockErrors_line_lt hl).imp fun h => hne h
  · intro a ha b hb _
    obtain ⟨line, -, q, fault, hf, rfl⟩ := mem_run_errors ha
    obtain ⟨line', -, -, rfl⟩ := hblock hb
    refine ⟨?_, rfl⟩
    intro ht
    obtain rfl := ht
    exact q.ownFault?_ne_unclosed line hf
  · exact (linkErrors_line_lt hl).imp fun h => hne h
  -- a link has no fault of its own and opens no block
  · intro a ha b hb he
    obtain ⟨line, hm, decl, id, hr, -, rfl⟩ := mem_linkErrors_iff.mp hb
    rcases List.mem_append.mp ha with ha | ha
    · obtain ⟨line', hm', q, fault, hf, rfl⟩ := mem_run_errors ha
      obtain rfl := eq_of_number_eq hl hm' hm he
      rw [ownFault?_of_link hr] at hf
      contradiction
    · obtain ⟨line', hm', ho, rfl⟩ := hblock ha
      obtain rfl := eq_of_number_eq hl hm' hm he
      simp [SourceLine.opens, hr] at ho

end Order

end Progress

/-- Sorting by a key keeps the order of entries with the same key. -/
theorem pairwise_mergeSort_key {β : Type} {key : β → Nat} {R : β → β → Prop} {l : List β}
    (h : l.Pairwise fun a b => key a = key b → R a b) :
    (l.mergeSort fun a b => key a ≤ key b).Pairwise fun a b =>
      key a < key b ∨ (key a = key b ∧ R a b) := by
  have htrans (a b c : β) :
      decide (key a ≤ key b) → decide (key b ≤ key c) → decide (key a ≤ key c) := by
    simpa using Nat.le_trans
  have htotal (a b : β) : decide (key a ≤ key b) || decide (key b ≤ key a) := by
    simpa using Nat.le_total (key a) (key b)
  have hsorted := List.pairwise_mergeSort htrans htotal l
  -- entries with one key make up the same list before and after
  have hsame (n : Nat) :
      (l.mergeSort fun a b => key a ≤ key b).filter (key · = n) = l.filter (key · = n) := by
    have hkey : (l.filter (key · = n)).Pairwise fun a b => decide (key a ≤ key b) = true := by
      rw [List.pairwise_iff_forall_sublist]
      intro a b hab
      have ha := List.of_mem_filter (hab.subset (List.mem_cons_self))
      have hb := List.of_mem_filter (hab.subset (List.mem_cons_of_mem _ List.mem_cons_self))
      simp only [decide_eq_true_eq] at ha hb ⊢
      omega
    have hsub := (List.sublist_mergeSort htrans htotal hkey List.filter_sublist).filter (key · = n)
    simp only [List.filter_filter, Bool.and_self] at hsub
    exact (hsub.eq_of_length ((List.mergeSort_perm l _).filter _).length_eq.symm).symm
  rw [List.pairwise_iff_forall_sublist] at hsorted h ⊢
  intro a b hab
  have hle : key a ≤ key b := by simpa using hsorted hab
  rcases Nat.lt_or_eq_of_le hle with hlt | heq
  · exact Or.inl hlt
  · refine Or.inr ⟨heq, h ?_ heq⟩
    have hf := hab.filter (key · = key b)
    rw [hsame] at hf
    simp only [heq, decide_true, List.filter_cons_of_pos, List.filter_nil] at hf
    exact hf.trans List.filter_sublist

variable {α : Type} [Scalar α]

/-- Compiling fails exactly if a line has a fault. It then reports all faults and no others, each
once, by line, and with the text of the line. -/
theorem compile_errors (title source : String) :
    ((∃ f, (compile title source : Except Failure (Diagram α)) = .error f) ↔
      ∃ e, Tells (sourceLines source.toList) e) ∧
    ∀ f, (compile title source : Except Failure (Diagram α)) = .error f →
      (∀ e, e ∈ f.errors ↔ Tells (sourceLines source.toList) e) ∧
      f.errors.Pairwise Earlier ∧
      ∀ e ∈ f.errors, ∃ index raw, (Text.lines source.toList)[index]? = some raw ∧
        e.line = index + 1 ∧ e.text = String.ofList (Text.trim raw) := by
  have hl := sourceLines_number_lt source.toList
  have hmem := fun e => Progress.mem_errors_iff (α := α) (nodup_of_number_lt hl) (e := e)
  have hpair := Progress.errors_pairwise (α := α) hl
  simp only at hmem hpair
  rw [compile, Progress.finish]
  generalize hE : (Progress.errors _ ++ Progress.blockErrors _ ++ Progress.linkErrors _) = errors
    at hmem hpair ⊢
  constructor
  · simp only [← hmem]
    cases errors with
    | nil => simp
    | cons e errors => simp
  · intro f hf
    have hfe : f = .ofErrors errors := by
      cases errors with
      | nil => simp at hf
      | cons e errors => exact (Except.error.inj hf).symm
    have hfm (e : LineError) : e ∈ f.errors ↔ Tells (sourceLines source.toList) e := by
      rw [hfe, Failure.ofErrors, List.mem_mergeSort, hmem]
    refine ⟨hfm, ?_, ?_⟩
    · rw [hfe]
      exact pairwise_mergeSort_key hpair
    · intro e he
      obtain ⟨before, line, after, fault, hs, -, rfl⟩ := (hfm e).mp he
      have hm : line ∈ sourceLines source.toList := by simp [hs]
      obtain ⟨⟨index, raw, hr, hn, ht⟩, -⟩ := mem_sourceLines_iff.mp hm
      exact ⟨index, raw, hr, hn, congrArg String.ofList ht⟩

end ArchDiagram.Source
