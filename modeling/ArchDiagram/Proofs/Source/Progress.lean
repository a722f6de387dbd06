import Mathlib.Data.List.Nodup
import ArchDiagram.Source.Compile

namespace ArchDiagram.Source.Progress

variable {α : Type}

def nodeIds (p : Progress α) : List String := p.nodes.map (·.id)

def containerIds (p : Progress α) : List String := p.containers.map (·.id)

@[simp] theorem any_nodes (p : Progress α) (id : String) :
    p.nodes.any (·.id == id) = decide (id ∈ p.nodeIds) := by
  rw [Bool.eq_iff_iff]
  simp [nodeIds]

@[simp] theorem any_containers (p : Progress α) (id : String) :
    p.containers.any (·.id == id) = decide (id ∈ p.containerIds) := by
  rw [Bool.eq_iff_iff]
  simp [containerIds]

/-- The ids of the nodes that name a container, in their order. -/
def owned (nodes : List (Node α)) (id : String) : List String :=
  (nodes.filter (·.owner == some id)).map (·.id)

theorem owned_append (nodes : List (Node α)) (node : Node α) (id : String) :
    owned (nodes ++ [node]) id = owned nodes id ++ if node.owner =
      some id then [node.id] else [] := by
  by_cases h : node.owner = some id <;> simp [owned, h]

theorem owned_eq_nil {nodes : List (Node α)} {id : String}
    (h : ∀ node ∈ nodes, node.owner ≠ some id) :
    owned nodes id = [] := by
  simpa [owned, List.filter_eq_nil_iff] using h

/-- The declarations so far fit together. -/
structure Sound (p : Progress α) : Prop where
  nodes : p.nodeIds.Nodup
  containers : p.containerIds.Nodup
  owners : ∀ node ∈ p.nodes, ∀ id, node.owner = some id → id ∈ p.containerIds
  blocks : ∀ block ∈ p.blocks, ∀ id, block.container = some id → id ∈ p.containerIds
  children : ∀ container ∈ p.containers, container.children = owned p.nodes container.id

theorem sound_empty : ({} : Progress α).Sound :=
  ⟨List.nodup_nil, List.nodup_nil, by simp, by simp, by simp⟩

theorem listChild_ids (containers : List (Container α)) (id child : String) :
    (listChild containers id child).map (·.id) = containers.map (·.id) := by
  rw [listChild, List.map_map]
  apply List.map_congr_left
  intro c _
  by_cases h : c.id = id <;> simp [h]

section Frame

/-- Closing a block touches only the blocks and the errors. -/
theorem close_frame (p : Progress α) (line : SourceLine) :
    (p.close line).nodes = p.nodes ∧ (p.close line).containers = p.containers ∧
      (p.close line).links = p.links := by
  rw [close]
  split <;> exact ⟨rfl, rfl, rfl⟩

theorem matchBraces_frame (p : Progress α) (line : SourceLine) :
    (p.matchBraces line).nodes = p.nodes ∧ (p.matchBraces line).containers = p.containers ∧
      (p.matchBraces line).links = p.links ∧ (p.matchBraces line).errors = p.errors := by
  rw [matchBraces]
  split_ifs <;> exact ⟨rfl, rfl, rfl, rfl⟩

variable [Scalar α]

/-- A node is put into a container without a change to the ids of containers. -/
theorem addNode_frame (p : Progress α) (line : SourceLine) (decl : NodeDecl) :
    (p.addNode line decl).containerIds = p.containerIds ∧ (p.addNode line decl).blocks = p.blocks ∧
      (p.addNode line decl).links = p.links := by
  rw [addNode]
  split
  · exact ⟨rfl, rfl, rfl⟩
  · split
    · exact ⟨rfl, rfl, rfl⟩
    · refine ⟨?_, rfl, rfl⟩
      rw [containerIds]
      dsimp only
      split
      · exact listChild_ids _ _ _
      · rfl

theorem addContainer_frame (p : Progress α) (line : SourceLine) (decl : ContainerDecl) :
    (p.addContainer line decl).nodes = p.nodes ∧ (p.addContainer line decl).links = p.links := by
  rw [addContainer]
  split
  · dsimp only
    split <;> exact ⟨rfl, rfl⟩
  · dsimp only
    split <;> split <;> exact ⟨rfl, rfl⟩

/-- A node with a known icon and a new id is taken. -/
theorem addNode_new {p : Progress α} {line : SourceLine} {decl : NodeDecl} {icon : Icon}
    (hi : Icon.ofName? decl.icon = some icon) (hd : decl.id ∉ p.nodeIds) :
    p.addNode line decl =
      { p with
        nodes := p.nodes ++ [nodeOf decl icon p.current]
        containers := match p.current with
          | some id => listChild p.containers id decl.id
          | none => p.containers } := by
  rw [addNode, hi]
  simp only [any_nodes, decide_eq_true_eq]
  exact if_neg hd

/-- A container with a known kind and a new id is taken. Its block is opened unless it is closed on
the same line. -/
theorem addContainer_taken {p : Progress α} {line : SourceLine} {decl : ContainerDecl}
    {kind : ContainerKind} (hk : ContainerKind.ofName? decl.kind = some kind)
    (hd : decl.id ∉ p.containerIds) :
    p.addContainer line decl =
      { p with
        containers := p.containers ++ [containerOf decl kind]
        blocks := if decl.closed then p.blocks else ⟨some decl.id, line⟩ :: p.blocks } := by
  rw [addContainer, hk]
  simp only [any_containers, decide_eq_true_eq, if_neg hd]
  cases decl.closed <;> rfl

end Frame

namespace Sound

variable {p : Progress α} {line : SourceLine}

theorem fault (h : p.Sound) (fault : Fault) : (p.fault line fault).Sound :=
  ⟨h.nodes, h.containers, h.owners, h.blocks, h.children⟩

/-- Blocks may be opened and closed as long as their containers are known. -/
theorem withBlocks (h : p.Sound) {blocks : List OpenBlock}
    (hb : ∀ block ∈ blocks, ∀ id, block.container = some id → id ∈ p.containerIds) :
    ({ p with blocks } : Progress α).Sound :=
  ⟨h.nodes, h.containers, h.owners, hb, h.children⟩

theorem openBlock (h : p.Sound) {container : Option String}
    (hc : ∀ id, container = some id → id ∈ p.containerIds) :
    (p.openBlock container line).Sound := by
  apply h.withBlocks
  intro block hb
  rcases List.mem_cons.mp hb with rfl | hb
  · exact hc
  · exact h.blocks block hb

theorem close (h : p.Sound) : (p.close line).Sound := by
  rw [Progress.close]
  split
  · exact h.fault _
  · next block outer hp =>
    apply h.withBlocks
    intro block hb
    exact h.blocks block (by rw [hp]; exact List.mem_cons_of_mem _ hb)

theorem matchBraces (h : p.Sound) : (p.matchBraces line).Sound := by
  rw [Progress.matchBraces]
  split_ifs
  · exact h.withBlocks fun block hb => h.blocks block (List.mem_of_mem_tail hb)
  · exact h.openBlock (by simp)
  · exact h

/-- The container of the innermost block is a known one. -/
theorem current (h : p.Sound) {id : String} (hc : p.current = some id) : id ∈ p.containerIds := by
  obtain ⟨block, hb, hid⟩ := Option.bind_eq_some_iff.mp hc
  exact h.blocks block (List.mem_of_head? hb) id hid

/-- A node with a new id goes into the container of the innermost block, if there is one. -/
theorem withNode (h : p.Sound) (node : Node α) (hid : node.id ∉ p.nodeIds)
    (ho : node.owner = p.current) :
    ({ p with
      nodes := p.nodes ++ [node]
      containers := match p.current with
        | some id => listChild p.containers id node.id
        | none => p.containers } : Progress α).Sound := by
  have hids : (match p.current with
      | some id => listChild p.containers id node.id
      | none => p.containers).map Container.id = p.containerIds := by
    split
    · exact listChild_ids _ _ _
    · rfl
  constructor
  · have hn := List.Nodup.concat hid h.nodes
    rw [List.concat_eq_append] at hn
    simpa [nodeIds] using hn
  · rw [containerIds, hids]
    exact h.containers
  · intro n hn id hi
    rw [containerIds, hids]
    rcases List.mem_append.mp hn with hn | hn
    · exact h.owners n hn id hi
    · obtain rfl : n = node := by simpa using hn
      exact h.current (ho ▸ hi)
  · intro block hb id hi
    rw [containerIds, hids]
    exact h.blocks block hb id hi
  · intro c hc
    rw [owned_append, ho]
    cases hcur : p.current with
    | none =>
      rw [hcur] at hc
      simpa using h.children c hc
    | some id =>
      rw [hcur] at hc
      obtain ⟨c', hc', rfl⟩ := List.mem_map.mp hc
      by_cases he : c'.id = id
      · subst he
        simp [h.children c' hc']
      · simp [he, Ne.symm he, h.children c' hc']

/-- A container with a new id has no nodes yet. -/
theorem withContainer (h : p.Sound) (container : Container α) (hid : container.id ∉ p.containerIds)
    (hc : container.children = []) :
    ({ p with containers := p.containers ++ [container] } : Progress α).Sound := by
  have hids : (p.containers ++ [container]).map (·.id) = p.containerIds ++ [container.id] := by
    simp [containerIds]
  refine ⟨h.nodes, ?_, ?_, ?_, ?_⟩
  · rw [containerIds, hids]
    rw [← List.concat_eq_append]
    exact List.Nodup.concat hid h.containers
  · intro n hn id hi
    rw [containerIds, hids]
    exact List.mem_append_left _ (h.owners n hn id hi)
  · intro block hb id hi
    rw [containerIds, hids]
    exact List.mem_append_left _ (h.blocks block hb id hi)
  · intro c hm
    rcases List.mem_append.mp hm with hm | hm
    · exact h.children c hm
    · obtain rfl : c = container := by simpa using hm
      rw [hc, owned_eq_nil]
      intro n hn ho
      exact hid (h.owners n hn _ ho)

variable [Scalar α]

theorem addNode (h : p.Sound) (decl : NodeDecl) : (p.addNode line decl).Sound := by
  rw [Progress.addNode]
  split
  · exact h.fault _
  · next icon _ =>
    split_ifs with hid
    · exact h.fault _
    · refine h.withNode (nodeOf decl icon p.current) ?_ rfl
      simpa [nodeIds, nodeOf] using hid

theorem addContainer (h : p.Sound) (decl : ContainerDecl) : (p.addContainer line decl).Sound := by
  have enter {q : Progress α} (hq : q.Sound) {container : Option String}
      (hc : ∀ id, container = some id → id ∈ q.containerIds) :
      (if decl.closed then q else q.openBlock container line).Sound := by
    split_ifs
    · exact hq
    · exact hq.openBlock hc
  rw [Progress.addContainer]
  split
  · exact enter (h.fault _) (by simp)
  · next kind _ =>
    split
    · exact enter (h.fault _) (by simp)
    · next hid =>
      refine enter (h.withContainer (containerOf decl kind) ?_ rfl) ?_
      · simpa [containerIds, containerOf] using hid
      · intro id hm
        cases hm
        simp [containerIds, containerOf]

theorem step (h : p.Sound) (line : SourceLine) : (p.step line).Sound := by
  rw [Progress.step]
  split
  · exact h.addNode _
  · exact ⟨h.nodes, h.containers, h.owners, h.blocks, h.children⟩
  · exact h.addContainer _
  · exact h.close
  · exact (h.fault _).matchBraces

theorem run (h : p.Sound) (lines : List SourceLine) : (lines.foldl Progress.step p).Sound := by
  induction lines generalizing p with
  | nil => exact h
  | cons line lines ih => exact ih (h.step line)

end Sound

end ArchDiagram.Source.Progress
