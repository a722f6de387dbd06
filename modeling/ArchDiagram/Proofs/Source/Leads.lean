import ArchDiagram.Proofs.Source.WellFormed
import ArchDiagram.Proofs.Source.Written

namespace ArchDiagram.Source

variable {α : Type}

/-- What was declared, without the lines that declared it. -/
structure Stage (α : Type) where
  nodes : List (Node α)
  containers : List (Container α)
  blocks : List (Option String)
  links : List LinkDecl

/-- The container into which the next node goes. -/
def Stage.current (s : Stage α) : Option String := s.blocks.head?.join

/-- The progress has come to the stage without an error. -/
structure Progress.At (p : Progress α) (s : Stage α) : Prop where
  nodes : p.nodes = s.nodes
  containers : p.containers = s.containers
  blocks : p.blocks.map (·.container) = s.blocks
  links : p.links.map (·.decl) = s.links
  errors : p.errors = []

def Progress.stage (p : Progress α) : Stage α :=
  ⟨p.nodes, p.containers, p.blocks.map (·.container), p.links.map (·.decl)⟩

theorem Progress.at_stage {p : Progress α} (h : p.errors = []) : p.At p.stage :=
  ⟨rfl, rfl, rfl, rfl, h⟩

theorem Progress.At.eq_stage {p : Progress α} {s : Stage α} (h : p.At s) : s = p.stage := by
  rw [Progress.stage, h.nodes, h.containers, h.blocks, h.links]

theorem Progress.current_stage (p : Progress α) : p.stage.current = p.current := by
  rw [Stage.current, Progress.stage, List.head?_map, Progress.current]
  cases p.blocks.head? <;> rfl

theorem Progress.At.current {p : Progress α} {s : Stage α} (h : p.At s) :
    p.current = s.current := by
  rw [h.eq_stage, p.current_stage]

/-- The containers after nodes were put into the given one. -/
def listAll (containers : List (Container α)) (owner : Option String) (ids : List String) :
    List (Container α) :=
  owner.elim containers fun id =>
    containers.map fun c => if c.id = id then { c with children := c.children ++ ids } else c

theorem listAll_nil (containers : List (Container α)) (owner : Option String) :
    listAll containers owner [] = containers := by
  cases owner with
  | none => rfl
  | some id => simp [listAll]

theorem listAll_append (containers : List (Container α)) (owner : Option String)
    (ids ids' : List String) :
    listAll (listAll containers owner ids) owner ids' = listAll containers owner (ids ++ ids') := by
  cases owner with
  | none => rfl
  | some id =>
    simp only [listAll, Option.elim_some, List.map_map]
    apply List.map_congr_left
    intro c _
    by_cases hc : c.id = id <;> simp [hc]

/-- Nodes go into no container that is not theirs. -/
theorem listAll_of_not_mem {containers : List (Container α)} {owner : Option String}
    (h : ∀ id, owner = some id → id ∉ containers.map (·.id)) (ids : List String) :
    listAll containers owner ids = containers := by
  cases owner with
  | none => rfl
  | some id =>
    conv_rhs => rw [← List.map_id containers]
    apply List.map_congr_left
    intro c hc
    have hother : c.id ≠ id := by
      intro he
      exact h id rfl (List.mem_map.mpr ⟨c, hc, he⟩)
    rw [if_neg hother]
    rfl

theorem listAll_concat (containers added : List (Container α)) (owner : Option String)
    (ids : List String) :
    listAll (containers ++ added) owner ids =
      listAll containers owner ids ++ listAll added owner ids := by
  cases owner with
  | none => rfl
  | some id => exact List.map_append

/-- Nodes of the container that was declared last change no other one. -/
theorem listAll_last {containers : List (Container α)} {container : Container α}
    (h : container.id ∉ containers.map (·.id)) (ids : List String) :
    listAll (containers ++ [container]) (some container.id) ids =
      containers ++ [{ container with children := container.children ++ ids }] := by
  have hothers : listAll containers (some container.id) ids = containers := by
    refine listAll_of_not_mem (fun id he => ?_) ids
    obtain rfl : container.id = id := Option.some.inj he
    exact h
  rw [listAll_concat, hothers]
  simp [listAll]

variable [Scalar α]

/-- A node after it was written and read, with its container. -/
def reread (node : Node α) (owner : Option String) : Node α :=
  Progress.nodeOf (nodeDecl node) node.icon owner

/-- A container after it was written and read, with its children. -/
def rereadContainer (container : Container α) (children : List String) : Container α :=
  { Progress.containerOf (containerDecl container) container.kind with children }

/-- The statements of a container with the nodes in it. -/
def blockTexts (item : Container α × List (Node α)) : List (List Char) :=
  [containerLine item.1] ++ item.2.map (nodeLine []) ++ [[closeBrace]]

@[simp] theorem reread_id (node : Node α) (owner : Option String) :
    (reread node owner).id = node.id := rfl

@[simp] theorem rereadContainer_id (container : Container α) (children : List String) :
    (rereadContainer container children).id = container.id := rfl

/-- A line without a fault takes one stage to the other. -/
inductive Takes (u : List Char) : Stage α → Stage α → Prop
  | node {s : Stage α} {decl : NodeDecl} {icon : Icon} :
      readStatement u = .ok (.node decl) → Icon.ofName? decl.icon = some icon →
      decl.id ∉ s.nodes.map (·.id) →
      Takes u s
        { s with
          nodes := s.nodes ++ [Progress.nodeOf decl icon s.current]
          containers := listAll s.containers s.current [decl.id] }
  | link {s : Stage α} {decl : LinkDecl} :
      readStatement u = .ok (.link decl) → Takes u s { s with links := s.links ++ [decl] }
  | container {s : Stage α} {decl : ContainerDecl} {kind : ContainerKind} :
      readStatement u = .ok (.container decl) → ContainerKind.ofName? decl.kind = some kind →
      decl.id ∉ s.containers.map (·.id) →
      Takes u s
        { s with
          containers := s.containers ++ [Progress.containerOf decl kind]
          blocks := if decl.closed then s.blocks else some decl.id :: s.blocks }
  | close {s : Stage α} {container : Option String} {outer : List (Option String)} :
      readStatement u = .ok .close → s.blocks = container :: outer →
      Takes u s { s with blocks := outer }

/-- Lines with the texts lead from one stage to the other. -/
def Leads (us : List (List Char)) (s t : Stage α) : Prop :=
  ∀ (p : Progress α) (lines : List SourceLine), lines.map (·.text) = us → p.At s →
    (lines.foldl Progress.step p).At t

namespace Leads

variable {us us' : List (List Char)} {s t r : Stage α}

theorem nil : Leads [] s s := by
  intro p lines hl hp
  rw [List.map_eq_nil_iff.mp hl]
  exact hp

theorem append (h : Leads us s t) (h' : Leads us' t r) : Leads (us ++ us') s r := by
  intro p lines hl hp
  obtain ⟨front, back, rfl, rfl, rfl⟩ := List.map_eq_append_iff.mp hl
  rw [List.foldl_append]
  exact h' _ back rfl (h p front rfl hp)

theorem one {u : List Char} (h : ∀ (p : Progress α) (line : SourceLine), line.text = u → p.At s →
    (p.step line).At t) : Leads [u] s t := by
  intro p lines hl hp
  obtain ⟨line, rfl, rfl⟩ := List.map_eq_singleton_iff.mp hl
  exact h p line rfl hp

/-- A line that is taken leads to its stage, whatever came before. -/
theorem of_takes {u : List Char} (h : Takes u s t) : Leads [u] s t := by
  refine one fun p line hu hp => ?_
  subst hu
  cases h with
  | node hr hi hnew =>
    rename_i decl icon
    have hnew' : decl.id ∉ p.nodeIds := by
      rw [Progress.nodeIds, hp.nodes]
      exact hnew
    have hstep : p.step line = p.addNode line decl := by rw [Progress.step, hr]
    rw [hstep, Progress.addNode_new hi hnew', hp.current]
    refine ⟨congrArg (· ++ _) hp.nodes, ?_, hp.blocks, hp.links, hp.errors⟩
    cases s.current with
    | none => exact hp.containers
    | some id => exact congrArg (Progress.listChild · id decl.id) hp.containers
  | link hr =>
    rw [Progress.step, hr]
    exact ⟨hp.nodes, hp.containers, hp.blocks, by simp [hp.links], hp.errors⟩
  | container hr hk hnew =>
    rename_i decl kind
    have hnew' : decl.id ∉ p.containerIds := by
      rw [Progress.containerIds, hp.containers]
      exact hnew
    have hstep : p.step line = p.addContainer line decl := by rw [Progress.step, hr]
    have hblocks :
        (if decl.closed then p.blocks else ⟨some decl.id, line⟩ :: p.blocks).map (·.container) =
        if decl.closed then s.blocks else some decl.id :: s.blocks := by
      rw [← hp.blocks]
      cases decl.closed <;> rfl
    rw [hstep, Progress.addContainer_taken hk hnew']
    exact ⟨hp.nodes, congrArg (· ++ _) hp.containers, hblocks, hp.links, hp.errors⟩
  | close hr hb =>
    obtain ⟨block, outer, hblocks, -, houter⟩ := List.map_eq_cons_iff.mp (hp.blocks.trans hb)
    rw [Progress.step, hr]
    simp only [Progress.close, hblocks]
    exact ⟨hp.nodes, hp.containers, houter, hp.links, hp.errors⟩

theorem link {link : Link} (hs : IsId link.source) (ht : IsId link.target)
    (hl : ∀ label ∈ link.label, '\n' ∉ label.toList) :
    Leads [linkLine link] s { s with links := s.links ++ [linkDecl link] } :=
  of_takes (.link (readStatement_linkLine hs ht hl))

theorem close {nodes : List (Node α)} {containers : List (Container α)} {container : Option String}
    {blocks : List (Option String)} {links : List LinkDecl} :
    Leads [[closeBrace]] ⟨nodes, containers, container :: blocks, links⟩
      ⟨nodes, containers, blocks, links⟩ :=
  of_takes (.close readStatement_closeBrace rfl)

variable (hrange : ∀ x : α, Scan.inRange (Scalar.nearest x) = true)
include hrange

theorem node {node : Node α} (hid : IsId node.id) (hl : '\n' ∉ node.label.toList)
    (hnew : node.id ∉ s.nodes.map (·.id)) :
    Leads [nodeLine [] node] s
      { s with
        nodes := s.nodes ++ [reread node s.current]
        containers := listAll s.containers s.current [node.id] } :=
  of_takes (.node (readStatement_nodeLine hrange hid hl) (icon_ofName? node.icon) hnew)

theorem container {container : Container α} (hid : IsId container.id)
    (hl : '\n' ∉ container.label.toList) (hnew : container.id ∉ s.containers.map (·.id)) :
    Leads [containerLine container] s
      { s with
        containers := s.containers ++ [rereadContainer container []]
        blocks := some container.id :: s.blocks } :=
  of_takes
    (.container (readStatement_containerLine hrange hid hl) (kind_ofName? container.kind) hnew)

/-- Nodes go into the container of the innermost block. -/
theorem nodes {nodes : List (Node α)}
    (hid : ∀ node ∈ nodes, IsId node.id ∧ '\n' ∉ node.label.toList)
    (hnew : (s.nodes.map (·.id) ++ nodes.map (·.id)).Nodup) :
    Leads (nodes.map (nodeLine [])) s
      { s with
        nodes := s.nodes ++ nodes.map (reread · s.current)
        containers := listAll s.containers s.current (nodes.map (·.id)) } := by
  induction nodes generalizing s with
  | nil =>
    simp only [List.map_nil, List.append_nil, listAll_nil]
    exact nil
  | cons node nodes ih =>
    have hfresh : node.id ∉ s.nodes.map (·.id) := by
      intro hm
      rw [List.nodup_append] at hnew
      exact hnew.2.2 _ hm _ (by simp) rfl
    have hfirst := Leads.node hrange (s := s) (hid node (by simp)).1 (hid node (by simp)).2 hfresh
    have hrest : Leads (nodes.map (nodeLine []))
        { s with
          nodes := s.nodes ++ [reread node s.current]
          containers := listAll s.containers s.current [node.id] }
        { s with
          nodes := s.nodes ++ [reread node s.current] ++ nodes.map (reread · s.current)
          containers := listAll (listAll s.containers s.current [node.id]) s.current
            (nodes.map (·.id)) } :=
      ih (fun other ho => hid other (by simp [ho]))
        (by simpa [reread, Progress.nodeOf, nodeDecl] using hnew)
    rw [listAll_append, List.append_assoc] at hrest
    exact hfirst.append hrest

/-- A container with its nodes leaves the blocks as they were. -/
theorem block {container : Container α} {nodes inside : List (Node α)}
    {containers : List (Container α)} {links : List LinkDecl}
    (hc : IsId container.id ∧ '\n' ∉ container.label.toList)
    (hn : ∀ node ∈ inside, IsId node.id ∧ '\n' ∉ node.label.toList)
    (hnew : container.id ∉ containers.map (·.id))
    (hnodes : (nodes.map (·.id) ++ inside.map (·.id)).Nodup) :
    Leads (blockTexts (container, inside)) ⟨nodes, containers, [], links⟩
      ⟨nodes ++ inside.map (reread · (some container.id)),
        containers ++ [rereadContainer container (inside.map (·.id))], [], links⟩ := by
  have hopen := Leads.container hrange (s := ⟨nodes, containers, [], links⟩) hc.1 hc.2 hnew
  have hinside := Leads.nodes hrange
    (s := ⟨nodes, containers ++ [rereadContainer container []], [some container.id], links⟩) hn
      hnodes
  have hlist : listAll (containers ++ [rereadContainer container []]) (some container.id)
      (inside.map (·.id)) =
      containers ++ [rereadContainer container (inside.map (·.id))] :=
    listAll_last (show (rereadContainer container []).id ∉ containers.map (·.id) from hnew) _
  change Leads _ _ ⟨_, listAll _ (some container.id) _, _, _⟩ at hinside
  rw [hlist] at hinside
  exact (hopen.append hinside).append close

/-- Containers one after the other. -/
theorem blocks {items : List (Container α × List (Node α))} {nodes : List (Node α)}
    {containers : List (Container α)} {links : List LinkDecl}
    (hc : ∀ item ∈ items, IsId item.1.id ∧ '\n' ∉ item.1.label.toList)
    (hn : ∀ item ∈ items, ∀ node ∈ item.2, IsId node.id ∧ '\n' ∉ node.label.toList)
    (hcontainers : (containers.map (·.id) ++ items.map (·.1.id)).Nodup)
    (hnodes : (nodes.map (·.id) ++ items.flatMap (·.2.map (·.id))).Nodup) :
    Leads (items.flatMap blockTexts) ⟨nodes, containers, [], links⟩
      ⟨nodes ++ items.flatMap fun item => item.2.map (reread · (some item.1.id)),
        containers ++ items.map fun item =>
          rereadContainer item.1 (item.2.map (·.id)), [], links⟩ := by
  induction items generalizing nodes containers with
  | nil => simpa using nil
  | cons item items ih =>
    rw [List.map_cons, List.nodup_append] at hcontainers
    rw [List.flatMap_cons, ← List.append_assoc] at hnodes
    have hnew : item.1.id ∉ containers.map (·.id) :=
      fun hm => hcontainers.2.2 _ hm _ List.mem_cons_self rfl
    have hrest : Leads (items.flatMap blockTexts)
        ⟨nodes ++ item.2.map (reread · (some item.1.id)),
          containers ++ [rereadContainer item.1 (item.2.map (·.id))], [], links⟩
        ⟨(nodes ++ item.2.map (reread · (some item.1.id))) ++
            items.flatMap fun item => item.2.map (reread · (some item.1.id)),
          (containers ++ [rereadContainer item.1 (item.2.map (·.id))]) ++
            items.map fun item => rereadContainer item.1 (item.2.map (·.id)), [], links⟩ := by
      refine ih (fun other ho => hc other (by simp [ho]))
        (fun other ho => hn other (by simp [ho])) ?_ ?_
      · simpa [List.nodup_append] using hcontainers
      · simpa [Function.comp_def] using hnodes
    rw [List.append_assoc, List.append_assoc] at hrest
    have hids := (List.nodup_append.mp hnodes).1
    exact (block hrange (hc item (by simp)) (hn item (by simp)) hnew hids).append hrest

omit hrange in
theorem links {links : List Link} (hid : ∀ link ∈ links, IsId link.source ∧ IsId link.target)
    (hl : ∀ link ∈ links, ∀ label ∈ link.label, '\n' ∉ label.toList) :
    Leads (links.map linkLine) s { s with links := s.links ++ links.map linkDecl } := by
  induction links generalizing s with
  | nil => simpa using nil
  | cons link links ih =>
    have hfirst :=
      Leads.link (s := s) (hid link (by simp)).1 (hid link (by simp)).2 (hl link (by simp))
    have hrest := ih (s := { s with links := s.links ++ [linkDecl link] })
      (fun other ho => hid other (by simp [ho])) (fun other ho => hl other (by simp [ho]))
    have hboth := hfirst.append hrest
    rw [List.append_assoc] at hboth
    exact hboth

end Leads

omit [Scalar α] in
/-- A stage with no open block and with known ends of links is a diagram. -/
theorem Progress.At.finish {p : Progress α} {s : Stage α} (h : p.At s) (hb : s.blocks = [])
    (hl : ∀ decl ∈ s.links, decl.source ∈ s.nodes.map (·.id) ∧ decl.target ∈ s.nodes.map (·.id))
    (title : String) :
    p.finish title = .ok
      { title
        nodes := s.nodes
        links := (Text.numbered s.links).map fun item => item.2.link item.1
        containers := if s.containers.isEmpty then none else some s.containers } := by
  have hends : ∀ link ∈ p.links, p.unknownEnd? link.decl = none := by
    intro link hm
    rw [Progress.unknownEnd?_eq_none_iff, Progress.nodeIds, h.nodes]
    exact hl _ (h.links ▸ List.mem_map_of_mem hm)
  have hblocks : p.blocks = [] := List.map_eq_nil_iff.mp (h.blocks.trans hb)
  have hnone : p.errors ++ p.blockErrors ++ p.linkErrors = [] := by
    rw [h.errors, (Progress.linkErrors_eq_nil_iff p).mpr hends, Progress.blockErrors, hblocks]
    rfl
  rw [Progress.finish]
  simp only [hnone, List.isEmpty_nil, if_true, h.nodes, h.containers, h.links,
    Progress.resolvedLinks_eq hends]

end ArchDiagram.Source
