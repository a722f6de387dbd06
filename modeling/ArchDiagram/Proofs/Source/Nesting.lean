import ArchDiagram.Proofs.Source.Steps

namespace ArchDiagram.Source

/-- The lines close every block that they open, and no other. -/
inductive Balanced : List SourceLine → Prop
  | nil : Balanced []
  | plain {line : SourceLine} {lines : List SourceLine} :
      line.opens = false → line.closes = false → Balanced lines → Balanced (line :: lines)
  | block {header close : SourceLine} {inside lines : List SourceLine} :
      header.opens = true → Balanced inside → close.closes = true → Balanced lines →
      Balanced (header :: (inside ++ close :: lines))

section Matching

variable {line header : SourceLine} {lines before after : List SourceLine} {depth : Nat}

theorem keepsOpen_plain (ho : line.opens = false) (hc : line.closes = false) :
    KeepsOpen depth (line :: lines) ↔ KeepsOpen depth lines := by
  simp [keepsOpen_cons, ho, hc]

theorem keepsOpen_open (h : line.opens = true) :
    KeepsOpen depth (line :: lines) ↔ KeepsOpen (depth + 1) lines := by
  simp [keepsOpen_cons, h, SourceLine.closes_of_opens h]

theorem keepsOpen_close (h : line.closes = true) :
    KeepsOpen depth (line :: lines) ↔ 0 < depth ∧ KeepsOpen (depth - 1) lines := by
  rw [keepsOpen_cons, if_pos h]

theorem KeepsOpen.mono {deeper : Nat} (h : KeepsOpen depth lines) (hd : depth ≤ deeper) :
    KeepsOpen deeper lines := by
  intro front hf
  have hle := h front hf
  omega

theorem KeepsOpen.of_append (h : KeepsOpen depth (before ++ after)) : KeepsOpen depth before :=
  fun front hf => h front (hf.trans (List.prefix_append before after))

namespace Balanced

/-- Balanced lines have no say in which blocks stay open. -/
theorem keepsOpen_append_iff (h : Balanced before) :
    KeepsOpen depth (before ++ after) ↔ KeepsOpen depth after := by
  induction h generalizing depth after with
  | nil => rfl
  | plain ho hc _ ih => rw [List.cons_append, keepsOpen_plain ho hc, ih]
  | block ho _ hc _ ihinside ihlines =>
    rw [List.cons_append, List.append_assoc, List.cons_append, keepsOpen_open ho, ihinside,
      keepsOpen_close hc, Nat.add_sub_cancel, ihlines]
    exact and_iff_right (Nat.succ_pos depth)

theorem keepsOpen (h : Balanced lines) : KeepsOpen depth lines := by
  have happend : KeepsOpen depth (lines ++ []) := h.keepsOpen_append_iff.mpr keepsOpen_nil
  rwa [List.append_nil] at happend

theorem foldl_pushBlock (h : Balanced lines) (blocks : List SourceLine) :
    lines.foldl pushBlock blocks = blocks := by
  induction h generalizing blocks with
  | nil => rfl
  | plain ho hc _ ih => simp [pushBlock, ho, hc, ih]
  | block ho _ hc _ ihinside ihlines =>
    simp [pushBlock, ho, hc, SourceLine.closes_of_opens ho, ihinside, ihlines]

end Balanced

/-- Lines that do not keep a block open have a line that closes it, and what comes before is
balanced. -/
theorem exists_close (lines : List SourceLine) (h : ¬KeepsOpen 0 lines) :
    ∃ inside close rest, lines = inside ++ close :: rest ∧ Balanced inside ∧
    close.closes = true := by
  match lines with
  | [] => exact absurd keepsOpen_nil h
  | line :: lines =>
    by_cases hc : line.closes = true
    · exact ⟨[], line, lines, rfl, .nil, hc⟩
    · rw [Bool.not_eq_true] at hc
      by_cases ho : line.opens = true
      · -- The block of this line is closed first, and then the one in question.
        rw [keepsOpen_open ho] at h
        obtain ⟨inner, close, rest, rfl, hinner, hclose⟩ :=
          exists_close lines fun hk => h (hk.mono (Nat.zero_le 1))
        rw [hinner.keepsOpen_append_iff, keepsOpen_close hclose] at h
        have hrest : ¬KeepsOpen 0 rest := fun hk => h ⟨Nat.one_pos, hk⟩
        obtain ⟨next, last, rest, rfl, hnext, hlast⟩ := exists_close rest hrest
        exact ⟨line :: (inner ++ close :: next), last,
          rest, by simp, .block ho hinner hclose hnext, hlast⟩
      · rw [Bool.not_eq_true] at ho
        rw [keepsOpen_plain ho hc] at h
        obtain ⟨inside, close, rest, rfl, hinside, hclose⟩ := exists_close lines h
        exact ⟨line :: inside, close, rest, rfl, .plain ho hc hinside, hclose⟩
termination_by lines.length

/-- Lines that close no block from outside and leave none open are balanced. -/
theorem balanced_of_keepsOpen (lines : List SourceLine) (h : KeepsOpen 0 lines)
    (hend : lines.foldl pushBlock [] = []) : Balanced lines := by
  match lines with
  | [] => exact .nil
  | line :: lines =>
    by_cases hc : line.closes = true
    · rw [keepsOpen_close hc] at h
      exact absurd h.1 (Nat.lt_irrefl 0)
    · rw [Bool.not_eq_true] at hc
      by_cases ho : line.opens = true
      · rw [keepsOpen_open ho] at h
        have hpush : lines.foldl pushBlock [line] = [] := by simpa [pushBlock, hc, ho] using hend
        have hclosed : ¬KeepsOpen 0 lines := by
          intro hk
          have hblocks : lines.foldl pushBlock [line] = lines.foldl pushBlock [] ++ [line] :=
            foldl_pushBlock_append [] hk
          rw [hpush] at hblocks
          simp at hblocks
        obtain ⟨inside, close, rest, rfl, hinside, hclose⟩ := exists_close lines hclosed
        rw [hinside.keepsOpen_append_iff, keepsOpen_close hclose] at h
        rw [List.foldl_append, hinside.foldl_pushBlock, List.foldl_cons] at hpush
        refine .block ho hinside hclose (balanced_of_keepsOpen rest h.2 ?_)
        simpa [pushBlock, hclose] using hpush
      · rw [Bool.not_eq_true] at ho
        rw [keepsOpen_plain ho hc] at h
        exact .plain ho hc (balanced_of_keepsOpen lines h (by simpa [pushBlock, hc, ho] using hend))
termination_by lines.length

/-- A header with some lines under it holds the line: the closing line that matches the header comes
after the line. -/
def Holds (header : SourceLine) (inside : List SourceLine) (line : SourceLine)
    (after : List SourceLine) : Prop :=
  header.opens = true ∧ ∃ rest close back, after = rest ++ close :: back ∧ close.closes = true ∧
    Balanced (inside ++ line :: rest)

/-- The last header before the line that holds it. -/
def Innermost (before : List SourceLine) (line : SourceLine) (after : List SourceLine)
    (header : SourceLine) : Prop :=
  ∃ front inside, before = front ++ header :: inside ∧ Holds header inside line after ∧
    ∀ front' other inside', inside = front' ++ other :: inside' → ¬Holds other inside' line after

theorem foldl_pushBlock_header (front : List SourceLine) {inside : List SourceLine}
    (ho : header.opens = true) (hk : KeepsOpen 0 inside) :
    (front ++ header :: inside).foldl pushBlock [] =
      inside.foldl pushBlock [] ++ header :: front.foldl pushBlock [] := by
  have hpush : pushBlock (front.foldl pushBlock []) header =
      header :: front.foldl pushBlock [] := by
    simp [pushBlock, ho, SourceLine.closes_of_opens ho]
  rw [List.foldl_append, List.foldl_cons, hpush]
  exact foldl_pushBlock_append [] hk

/-- In balanced lines a header before a line holds it exactly if its block is open at the line. -/
theorem holds_iff_stillOpen {front inside : List SourceLine} (hc : line.closes = false)
    (h : Balanced (front ++ header :: inside ++ line :: after)) :
    Holds header inside line after ↔ StillOpen header inside := by
  refine and_congr_right fun hheader => ?_
  constructor
  · intro hclose
    obtain ⟨rest, close, back, -, -, hb⟩ := hclose
    exact hb.keepsOpen.of_append
  · intro hk
    -- At the end the block is closed, so there is a line after the given one that closes it.
    have hclosed : ¬KeepsOpen 0 (inside ++ line :: after) := by
      intro hall
      have hend := h.foldl_pushBlock []
      rw [List.append_assoc, List.cons_append, foldl_pushBlock_header front hheader hall] at hend
      simp at hend
    obtain ⟨body, close, back, he, hbody, hclose⟩ := exists_close _ hclosed
    have hother : line ≠ close := by
      intro heq
      rw [heq, hclose] at hc
      contradiction
    -- That line does not come before the given one, where the block is still open.
    rcases List.append_eq_append_iff.mp he with ⟨rest, rfl, hrest⟩ | ⟨rest, rfl, hrest⟩
    · rcases List.cons_eq_append_iff.mp hrest with ⟨-, heq⟩ | ⟨rest, rfl, rfl⟩
      · exact absurd (List.cons.inj heq).1.symm hother
      · exact ⟨rest, close, back, rfl, hclose, hbody⟩
    · rcases List.cons_eq_append_iff.mp hrest with ⟨-, heq⟩ | ⟨rest, rfl, -⟩
      · exact absurd (List.cons.inj heq).1 hother
      · rw [hbody.keepsOpen_append_iff, keepsOpen_close hclose] at hk
        exact absurd hk.1 (Nat.lt_irrefl 0)

/-- The last header that holds a line is that of the innermost block there. -/
theorem innermost_iff_head? (hc : line.closes = false) (h : Balanced (before ++ line :: after))
    (hn : before.Nodup) :
    Innermost before line after header ↔ (before.foldl pushBlock []).head? = some header := by
  -- No header after the innermost one has an open block.
  have hnone {front inside : List SourceLine} (he : before = front ++ header :: inside) :
      (∀ front' other inside', inside = front' ++ other :: inside' →
        ¬Holds other inside' line after) ↔
        inside.foldl pushBlock [] = [] := by
    subst he
    have hinside : inside.Nodup := (List.nodup_cons.mp hn.of_append_right).2
    simp only [List.eq_nil_iff_forall_not_mem, mem_openBlocks_iff hinside, not_exists, not_and]
    constructor
    · intro hall other front' inside' he hopen
      subst he
      have hwhole : Balanced (front ++ header :: front' ++ other :: inside' ++ line :: after) := by
        simpa using h
      exact hall front' other inside' rfl ((holds_iff_stillOpen hc hwhole).mpr hopen)
    · intro hall front' other inside' he hholds
      subst he
      have hwhole : Balanced (front ++ header :: front' ++ other :: inside' ++ line :: after) := by
        simpa using h
      exact hall other front' inside' rfl ((holds_iff_stillOpen hc hwhole).mp hholds)
  constructor
  · intro hinner
    obtain ⟨front, inside, he, hholds, hlast⟩ := hinner
    have hclosed := (hnone he).mp hlast
    subst he
    obtain ⟨ho, hk⟩ := (holds_iff_stillOpen hc h).mp hholds
    rw [foldl_pushBlock_header front ho hk, hclosed]
    rfl
  · intro hhead
    obtain ⟨front, inside, he, hopen⟩ := (mem_openBlocks_iff hn).mp (List.mem_of_head? hhead)
    refine ⟨front, inside, he, ?_, (hnone he).mpr ?_⟩
    · exact (holds_iff_stillOpen hc (he ▸ h)).mpr hopen
    · subst he
      rw [foldl_pushBlock_header front hopen.1 hopen.2] at hhead
      cases hb : inside.foldl pushBlock [] with
      | nil => rfl
      | cons other blocks =>
        -- The innermost block would be one whose header comes twice.
        rw [hb] at hhead
        obtain rfl : other = header := Option.some.inj hhead
        have hm : other ∈ inside.foldl pushBlock [] := by simp [hb]
        rcases mem_foldl_pushBlock hm with hm | ⟨hm, -⟩
        · exact absurd hm List.not_mem_nil
        · exact absurd hm (List.nodup_cons.mp hn.of_append_right).1

end Matching

namespace SourceLine

def blockId? (line : SourceLine) : Option String :=
  match readStatement line.text with
  | .ok (.container decl) => if decl.closed then none else some decl.id
  | _ => none

def nodeId? (line : SourceLine) : Option String :=
  match readStatement line.text with
  | .ok (.node decl) => some decl.id
  | _ => none

variable {line : SourceLine} {statement : Statement}

theorem nodeId?_eq_some_iff {id : String} :
    line.nodeId? = some id ↔ ∃ decl, readStatement line.text = .ok (.node decl) ∧ decl.id = id := by
  rw [nodeId?]
  split <;> simp_all

theorem opens_iff_isHeader (h : readStatement line.text = .ok statement) :
    line.opens = true ↔ IsHeader line.text := by
  cases statement <;> simp [opens, IsHeader, h]

theorem closes_iff (h : readStatement line.text = .ok statement) :
    line.closes = true ↔ readStatement line.text = .ok .close := by
  cases statement <;> simp [closes, h]

theorem blockId?_ne_none (h : readStatement line.text = .ok statement) (ho : line.opens = true) :
    line.blockId? ≠ none := by
  obtain ⟨decl, hr, hclosed⟩ := (opens_iff_isHeader h).mp ho
  simp [blockId?, hr, hclosed]

end SourceLine

section Run

variable {α : Type} [Scalar α] {line : SourceLine} {lines : List SourceLine} {s t : Stage α}

theorem Takes.blocks {opened : List SourceLine} (h : Takes line.text s t)
    (hs : s.blocks = opened.map (·.blockId?)) :
    t.blocks = (pushBlock opened line).map (·.blockId?) := by
  cases h with
  | node hr => simp [pushBlock, SourceLine.opens, SourceLine.closes, hr, hs]
  | link hr => simp [pushBlock, SourceLine.opens, SourceLine.closes, hr, hs]
  | @container decl _ hr =>
    cases hclosed : decl.closed <;>
      simp [pushBlock, SourceLine.opens, SourceLine.closes, SourceLine.blockId?, hr, hs, hclosed]
  | close hr hb =>
    rw [hs] at hb
    simp [pushBlock, SourceLine.closes, hr, List.map_tail, hb]

/-- Only an open block is closed. -/
theorem Takes.blocks_ne_nil (h : Takes line.text s t) (hc : line.closes = true) :
    s.blocks ≠ [] := by
  cases h with
  | node hr => simp [SourceLine.closes, hr] at hc
  | link hr => simp [SourceLine.closes, hr] at hc
  | container hr => simp [SourceLine.closes, hr] at hc
  | close _ hb => simp [hb]

theorem Takes.nodeIds (h : Takes line.text s t) :
    t.nodes.map (·.id) = s.nodes.map (·.id) ++ line.nodeId?.toList := by
  cases h with
  | node hr => simp [SourceLine.nodeId?, hr, Progress.nodeOf]
  | link hr => simp [SourceLine.nodeId?, hr]
  | container hr => simp [SourceLine.nodeId?, hr]
  | close hr => simp [SourceLine.nodeId?, hr]

theorem Takes.nodes_prefix {u : List Char} (h : Takes u s t) : s.nodes <+: t.nodes := by
  cases h with
  | node => exact List.prefix_append _ _
  | link => exact List.prefix_rfl
  | container => exact List.prefix_rfl
  | close => exact List.prefix_rfl

namespace Steps

/-- The open blocks are those of the lines that were left open, each with the container of its
header. -/
theorem blocks (opened : List SourceLine) (h : Steps (lines.map (·.text)) s t)
    (hs : s.blocks = opened.map (·.blockId?)) :
    t.blocks = (lines.foldl pushBlock opened).map (·.blockId?) := by
  induction lines generalizing s opened with
  | nil =>
    cases h
    exact hs
  | cons line lines ih =>
    cases h with
    | cons htakes hrest => exact ih _ hrest (htakes.blocks hs)

/-- Lines that are taken close open blocks only. -/
theorem keepsOpen (opened : List SourceLine) (h : Steps (lines.map (·.text)) s t)
    (hs : s.blocks = opened.map (·.blockId?)) :
    KeepsOpen opened.length lines := by
  induction lines generalizing s opened with
  | nil => exact keepsOpen_nil
  | cons line lines ih =>
    cases h with
    | cons htakes hrest =>
      have hlines := ih _ hrest (htakes.blocks hs)
      rw [length_pushBlock] at hlines
      rw [keepsOpen_cons]
      split_ifs at hlines ⊢ with hc ho
      · have hopen := htakes.blocks_ne_nil hc
        rw [hs, ne_eq, List.map_eq_nil_iff] at hopen
        exact ⟨List.length_pos_iff.mpr hopen, hlines⟩
      · exact hlines
      · exact hlines

theorem nodeIds (h : Steps (lines.map (·.text)) s t) :
    t.nodes.map (·.id) = s.nodes.map (·.id) ++ lines.filterMap (·.nodeId?) := by
  induction lines generalizing s with
  | nil =>
    cases h
    simp
  | cons line lines ih =>
    cases h with
    | cons htakes hrest =>
      rw [ih hrest, htakes.nodeIds, List.append_assoc, List.filterMap_cons]
      cases line.nodeId? <;> rfl

theorem nodes_prefix {us : List (List Char)} (h : Steps us s t) : s.nodes <+: t.nodes := by
  induction h with
  | nil => exact List.prefix_rfl
  | cons htakes _ ih => exact htakes.nodes_prefix.trans ih

/-- A node goes into the container of the innermost block at its line. -/
theorem exists_node {before after : List SourceLine} {id : String}
    (h : Steps ((before ++ line :: after).map (·.text)) s t) (hs : s.blocks = [])
    (hid : line.nodeId? = some id) :
    ∃ node ∈ t.nodes, node.id = id ∧ node.owner =
      (before.foldl pushBlock []).head?.bind (·.blockId?) := by
  rw [List.map_append, List.map_cons] at h
  obtain ⟨m, hbefore, hline⟩ := h.of_append
  obtain ⟨decl, hr, rfl⟩ := SourceLine.nodeId?_eq_some_iff.mp hid
  have hblocks : m.blocks = (before.foldl pushBlock []).map (·.blockId?) := hbefore.blocks [] hs
  have hcurrent : m.current = (before.foldl pushBlock []).head?.bind (·.blockId?) := by
    rw [Stage.current, hblocks, List.head?_map]
    cases (before.foldl pushBlock []).head? <;> rfl
  cases hline with
  | cons htakes hafter =>
    cases htakes with
    | @node decl' icon hr' =>
      obtain rfl : decl' = decl := by simpa [hr] using hr'.symm
      refine ⟨Progress.nodeOf decl' icon m.current,
        hafter.nodes_prefix.subset (by simp), rfl, hcurrent⟩
    | link hr' => simp [hr] at hr'
    | container hr' => simp [hr] at hr'
    | close hr' => simp [hr] at hr'

end Steps

end Run

/-- The node stands in the block of the container: the last header that holds the line of the node
is the one that declares the container. -/
def StandsIn (lines : List SourceLine) (node container : String) : Prop :=
  ∃ before line after header, lines = before ++ line :: after ∧ line.nodeId? = some node ∧
    Innermost before line after header ∧ header.blockId? = some container

section Compile

variable {α : Type} [Scalar α] {title source : String} {d : Diagram α}

theorem line_steps_of_compile (h : compile title source = .ok d) :
    Steps ((sourceLines source.toList).map (·.text)) .initial (declared d source) := by
  rw [map_text_sourceLines]
  exact steps_of_compile h

theorem readable_of_compile (h : compile title source = .ok d) {line : SourceLine}
    (hl : line ∈ sourceLines source.toList) :
    ∃ statement, readStatement line.text = .ok statement :=
  (line_steps_of_compile h).readable (List.mem_map_of_mem hl)

theorem balanced_of_compile (h : compile title source = .ok d) :
    Balanced (sourceLines source.toList) := by
  have hsteps := line_steps_of_compile h
  have hend := hsteps.blocks [] rfl
  refine balanced_of_keepsOpen _ (hsteps.keepsOpen [] rfl) ?_
  simpa [declared] using hend.symm

/-- The owner of a node is the container of the last header that holds its line. -/
theorem exists_node_of_compile (h : compile title source = .ok d) {before after : List SourceLine}
    {line : SourceLine} {id : String} (hs : sourceLines source.toList = before ++ line :: after)
    (hid : line.nodeId? = some id) :
    ∃ node ∈ d.nodes, node.id = id ∧
      (∀ container, node.owner = some container ↔
        ∃ header, Innermost before line after header ∧ header.blockId? = some container) ∧
      (node.owner = none ↔ ∀ header, ¬Innermost before line after header) := by
  have hsteps := line_steps_of_compile h
  rw [hs] at hsteps
  obtain ⟨node, hn, hid', howner⟩ := hsteps.exists_node rfl hid
  obtain ⟨decl, hr, -⟩ := SourceLine.nodeId?_eq_some_iff.mp hid
  have hc : line.closes = false := by simp [SourceLine.closes, hr]
  have hbalanced : Balanced (before ++ line :: after) := hs ▸ balanced_of_compile h
  have hnodup : before.Nodup :=
    (hs ▸ nodup_of_number_lt (sourceLines_number_lt source.toList)).of_append_left
  refine ⟨node, hn, hid', ?_, ?_⟩
  · intro container
    simp only [innermost_iff_head? hc hbalanced hnodup, howner, Option.bind_eq_some_iff]
  · simp only [innermost_iff_head? hc hbalanced hnodup, howner]
    -- A block that is open has a header that was taken, and that names its container.
    constructor
    · intro hnone header hhead
      rw [hhead, Option.bind_some] at hnone
      have hm := List.mem_of_head? hhead
      obtain ⟨hm, ho⟩ := (mem_foldl_pushBlock hm).resolve_left List.not_mem_nil
      have hl : header ∈ sourceLines source.toList := hs ▸ List.mem_append_left _ hm
      obtain ⟨statement, hr⟩ := readable_of_compile h hl
      exact SourceLine.blockId?_ne_none hr ho hnone
    · intro hnone
      rw [Option.eq_none_iff_forall_ne_some.mpr hnone]
      rfl

theorem nodeIds_of_compile (h : compile title source = .ok d) :
    d.nodeIds = (sourceLines source.toList).filterMap (·.nodeId?) :=
  (line_steps_of_compile h).nodeIds

theorem mem_children_iff_standsIn (h : compile title source = .ok d) {c : Container α}
    (hc : c ∈ d.containerList) (child : String) :
    child ∈ c.children ↔ StandsIn (sourceLines source.toList) child c.id := by
  have hwf := wellFormed_of_compile h
  constructor
  · intro hchild
    have hnode : child ∈ d.nodeIds := (hwf.inOrder c hc).subset hchild
    rw [nodeIds_of_compile h] at hnode
    obtain ⟨line, hl, hid⟩ := List.mem_filterMap.mp hnode
    obtain ⟨before, after, hs⟩ := List.append_of_mem hl
    obtain ⟨node, hn, rfl, howner, -⟩ := exists_node_of_compile h hs hid
    obtain ⟨header, hinner, hblock⟩ :=
      (howner c.id).mp ((hwf.owner_iff node hn c.id).mpr ⟨c, hc, rfl, hchild⟩)
    exact ⟨before, line, after, header, hs, hid, hinner, hblock⟩
  · intro hstands
    obtain ⟨before, line, after, header, hs, hid, hinner, hblock⟩ := hstands
    obtain ⟨node, hn, rfl, howner, -⟩ := exists_node_of_compile h hs hid
    have hnode := (howner c.id).mpr ⟨header, hinner, hblock⟩
    obtain ⟨c', hc', he, hchild⟩ := (hwf.owner_iff node hn c.id).mp hnode
    rwa [List.inj_on_of_nodup_map hwf.containerIds hc' hc he] at hchild

/-- The diagram has the nesting of the lines: each node belongs to the container whose header is the
last one that holds its line, and containers list just those nodes, in the order of their lines. -/
structure Nests (lines : List SourceLine) (d : Diagram α) : Prop where
  balanced : Balanced lines
  headers : ∀ line ∈ lines, line.opens = true ↔ IsHeader line.text
  closings : ∀ line ∈ lines, line.closes = true ↔ readStatement line.text = .ok .close
  nodeIds : d.nodeIds = lines.filterMap (·.nodeId?)
  distinct : d.nodeIds.Nodup
  owners : ∀ before line after id, lines = before ++ line :: after → line.nodeId? = some id →
    ∃ node ∈ d.nodes, node.id = id ∧
      (∀ container, node.owner = some container ↔
        ∃ header, Innermost before line after header ∧ header.blockId? = some container) ∧
      (node.owner = none ↔ ∀ header, ¬Innermost before line after header)
  children : ∀ c ∈ d.containerList, c.children.Sublist d.nodeIds ∧
    ∀ child, child ∈ c.children ↔ StandsIn lines child c.id

/-- In a source that compiles every header has its closing line, and a node goes into the innermost
block around it. -/
theorem compile_nests (h : compile title source = .ok d) : Nests (sourceLines source.toList) d := by
  have hwf := wellFormed_of_compile h
  constructor
  · exact balanced_of_compile h
  · intro line hl
    obtain ⟨statement, hr⟩ := readable_of_compile h hl
    exact SourceLine.opens_iff_isHeader hr
  · intro line hl
    obtain ⟨statement, hr⟩ := readable_of_compile h hl
    exact SourceLine.closes_iff hr
  · exact nodeIds_of_compile h
  · exact hwf.nodeIds
  · intro before line after id hs hid
    exact exists_node_of_compile h hs hid
  · intro c hc
    exact ⟨hwf.inOrder c hc, mem_children_iff_standsIn h hc⟩

end Compile

/-- A link and two containers in a block, one of them closed on its line, and a node below each. -/
def atticSource : String :=
  "container house: \"\" type=vpc x=0 y=0 width=9 height=9 \x7b\n" ++
  "container attic: \"\" type=group x=0 y=0 width=9 height=9 \x7b\nnode box: \"\" icon=storage x=1 y=1\n" ++
  "box -> lamp\n\x7d\ncontainer cellar: \"\" type=group x=0 y=0 width=9 height=9 \x7b\x7d\n" ++
  "node lamp: \"\" icon=server x=1 y=1\n\x7d\nnode tree: \"\" icon=user x=1 y=1"

theorem compile_nests_attic : ∃ d : Diagram Float, compile "House" atticSource = .ok d ∧
    d.nodes.map (·.owner) = [some "attic", some "house", none] ∧
    Nests (sourceLines atticSource.toList) d := by
  have howners : (match (compile "House" atticSource : Except Failure (Diagram Float)) with
    | .error _ => []
    | .ok d => d.nodes.map (·.owner)) = [some "attic", some "house", none] := by decide +kernel
  cases h : (compile "House" atticSource : Except Failure (Diagram Float)) with
  | error e => simp [h] at howners
  | ok d =>
    rw [h] at howners
    exact ⟨d, rfl, howners, compile_nests h⟩

end ArchDiagram.Source
