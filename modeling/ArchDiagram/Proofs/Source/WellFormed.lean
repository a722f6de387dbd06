import ArchDiagram.Proofs.Diagram.Consistency
import ArchDiagram.Proofs.Source.Progress
import ArchDiagram.Proofs.Text.Lines

namespace ArchDiagram.Source

variable {α : Type}

def SourceLine.link? (line : SourceLine) : Option LinkDecl :=
  match readStatement line.text with
  | .ok (.link decl) => some decl
  | _ => none

/-- The links that a source declares, in the order of their lines. -/
def linkDecls (source : List Char) : List LinkDecl := (sourceLines source).filterMap (·.link?)

def LinkDecl.link (decl : LinkDecl) (number : Nat) : Link :=
  { id := "link-" ++ toString number
    source := decl.source
    target := decl.target
    label := decl.label
    bidirectional := decl.bidirectional }

namespace Progress

theorem mem_owned {nodes : List (Node α)} {id child : String} :
    child ∈ owned nodes id ↔ ∃ node ∈ nodes, node.owner = some id ∧ node.id = child := by
  simp [owned, and_assoc]

theorem owned_sublist (nodes : List (Node α)) (id : String) :
    (owned nodes id).Sublist (nodes.map (·.id)) :=
  List.filter_sublist.map _

namespace Sound

variable {p : Progress α}

/-- A node is given by its id. -/
theorem node_ext (h : p.Sound) {n m : Node α} (hn : n ∈ p.nodes) (hm : m ∈ p.nodes)
    (he : n.id = m.id) :
    n = m :=
  List.inj_on_of_nodup_map h.nodes hn hm he

theorem owner_iff (h : p.Sound) {node : Node α} (hn : node ∈ p.nodes) (id : String) :
    node.owner = some id ↔ ∃ c ∈ p.containers, c.id = id ∧ node.id ∈ c.children := by
  constructor
  · intro ho
    obtain ⟨c, hc, rfl⟩ := List.mem_map.mp (h.owners node hn id ho)
    refine ⟨c, hc, rfl, ?_⟩
    rw [h.children c hc, mem_owned]
    exact ⟨node, hn, ho, rfl⟩
  · intro hl
    obtain ⟨c, hc, rfl, hm⟩ := hl
    rw [h.children c hc, mem_owned] at hm
    obtain ⟨m, hm, ho, he⟩ := hm
    rwa [← h.node_ext hm hn he]

theorem children_once (h : p.Sound) : (p.containers.flatMap (·.children)).Nodup := by
  rw [List.nodup_flatMap]
  constructor
  · intro c hc
    rw [h.children c hc]
    exact h.nodes.sublist (owned_sublist p.nodes c.id)
  · refine (List.pairwise_map.mp h.containers).imp_of_mem ?_
    intro c c' hc hc' hne child hm hm'
    change child ∈ c.children at hm
    change child ∈ c'.children at hm'
    rw [h.children c hc, mem_owned] at hm
    rw [h.children c' hc', mem_owned] at hm'
    obtain ⟨n, hn, ho, rfl⟩ := hm
    obtain ⟨n', hn', ho', he⟩ := hm'
    obtain rfl := h.node_ext hn' hn he
    exact hne (Option.some.inj (ho.symm.trans ho'))

end Sound

theorem linkErrors_eq_nil_iff (p : Progress α) :
    p.linkErrors = [] ↔ ∀ link ∈ p.links, p.unknownEnd? link.decl = none := by
  simp [linkErrors, List.filterMap_eq_nil_iff]

theorem unknownEnd?_eq_none_iff (p : Progress α) (decl : LinkDecl) :
    p.unknownEnd? decl = none ↔ decl.source ∈ p.nodeIds ∧ decl.target ∈ p.nodeIds := by
  simp [unknownEnd?, nodeIds]

/-- The links are numbered in their order when all of them have their ends. -/
theorem resolvedLinks_eq {p : Progress α} (h : ∀ link ∈ p.links, p.unknownEnd? link.decl = none) :
    p.resolvedLinks = (Text.numbered (p.links.map (·.decl))).map fun item =>
      item.2.link item.1 := by
  have hf : (p.links.filter fun link => (p.unknownEnd? link.decl).isNone) = p.links :=
    List.filter_eq_self.mpr fun link hl => by simp [h link hl]
  rw [resolvedLinks, hf, Text.numbered_map, List.map_map]
  rfl

/-- Success means that no error was noted, no block is open and every link has its ends. -/
theorem finish_eq_ok {p : Progress α} {title : String} {d : Diagram α}
    (h : p.finish title = .ok d) :
    (p.errors = [] ∧ p.blocks = [] ∧ ∀ link ∈ p.links, p.unknownEnd? link.decl = none) ∧
    d = { title
          nodes := p.nodes
          links := p.resolvedLinks
          containers := if p.containers.isEmpty then none else some p.containers } := by
  rw [finish] at h
  split at h
  · next he =>
    have hn := List.isEmpty_iff.mp he
    simp only [List.append_eq_nil_iff, linkErrors_eq_nil_iff] at hn
    exact ⟨⟨hn.1.1, by simpa [blockErrors] using hn.1.2, hn.2⟩, (Except.ok.inj h).symm⟩
  · contradiction

theorem containerList_eq (p : Progress α) (title : String) (links : List Link) :
    Diagram.containerList
      { title, nodes := p.nodes, links
        containers := if p.containers.isEmpty then none else some p.containers } =
          p.containers := by
  cases p.containers <;> rfl

theorem Sound.finish {p : Progress α} {title : String} {d : Diagram α} (hs : p.Sound)
    (h : p.finish title = .ok d) : d.WellFormed := by
  obtain ⟨⟨-, -, hends⟩, rfl⟩ := finish_eq_ok h
  constructor
  · exact hs.nodes
  · rw [containerList_eq]
    exact hs.containers
  · intro link hm
    rw [resolvedLinks_eq hends] at hm
    obtain ⟨item, hi, rfl⟩ := List.mem_map.mp hm
    obtain ⟨pending, hp, hd⟩ := List.mem_map.mp (Text.mem_of_mem_numbered hi)
    have he := (p.unknownEnd?_eq_none_iff pending.decl).mp (hends pending hp)
    rw [hd] at he
    exact he
  · intro node hn id
    rw [containerList_eq]
    exact hs.owner_iff hn id
  · rw [containerList_eq]
    exact hs.children_once
  · intro c hc
    rw [containerList_eq] at hc
    rw [hs.children c hc]
    exact owned_sublist p.nodes c.id
  · cases p.containers <;> simp

variable [Scalar α]

theorem step_links (p : Progress α) (line : SourceLine) :
    (p.step line).links = p.links ++ (line.link?.map fun decl => ⟨decl, line⟩).toList := by
  cases hr : readStatement line.text with
  | error e => simp [step, SourceLine.link?, hr, fault, matchBraces_frame]
  | ok statement =>
    cases statement <;>
      simp [step, SourceLine.link?, hr, close_frame, addNode_frame, addContainer_frame]

/-- The links wait in the order of their lines. -/
theorem run_links (p : Progress α) (lines : List SourceLine) :
    (lines.foldl step p).links =
      p.links ++ lines.filterMap fun line => line.link?.map fun decl => ⟨decl, line⟩ := by
  induction lines generalizing p with
  | nil => simp
  | cons line lines ih =>
    rw [List.foldl_cons, ih, step_links, List.append_assoc, List.filterMap_cons]
    cases line.link? <;> rfl

theorem run_decls (source : List Char) :
    ((sourceLines source).foldl step ({} : Progress α)).links.map (·.decl) = linkDecls source := by
  rw [run_links, List.nil_append, List.map_filterMap, linkDecls]
  congr 1
  funext line
  cases line.link? <;> rfl

end Progress

variable [Scalar α]

/-- A compiled diagram is well formed: all ids differ, links join its nodes and have the numbers of
their lines, containers list just the nodes that name them, and the validator has nothing to say. -/
theorem compile_wellFormed {title source : String} {d : Diagram α}
    (h : compile title source = .ok d) :
    d.WellFormed ∧
    d.links = (Text.numbered (linkDecls source.toList)).map (fun item => item.2.link item.1) ∧
    d.violations = [] ∧ d.validate = .ok () := by
  have hs : ((sourceLines source.toList).foldl Progress.step ({} : Progress α)).Sound :=
    Progress.sound_empty.run _
  have hwf := hs.finish h
  refine ⟨hwf, ?_, hwf.violations_eq_nil, (Diagram.validate_eq_ok_iff d).mpr hwf.violations_eq_nil⟩
  obtain ⟨⟨-, -, hends⟩, rfl⟩ := Progress.finish_eq_ok h
  rw [← Progress.run_decls (α := α)]
  exact Progress.resolvedLinks_eq hends

/-- A link that comes before its nodes, a node in a block and one outside of it. -/
def shopSource : String :=
  "web <-> db\ncontainer c: \"Shop\" type=vpc x=0 y=0 width=9 height=9 \x7b\n" ++
  "node web: \"\" icon=server x=1 y=1\n\x7d\nnode db: \"\" icon=cache x=5 y=-5"

theorem compile_wellFormed_shop : ∃ d : Diagram Float, compile "Shop" shopSource = .ok d ∧
    d.WellFormed ∧
    d.links = (Text.numbered (linkDecls shopSource.toList)).map (fun item => item.2.link item.1) ∧
    d.violations = [] ∧ d.validate = .ok () := by
  have hok : (compile "Shop" shopSource : Except Failure (Diagram Float)).isOk = true := by
    decide +kernel
  cases h : (compile "Shop" shopSource : Except Failure (Diagram Float)) with
  | error e =>
    rw [h] at hok
    contradiction
  | ok d => exact ⟨d, rfl, compile_wellFormed h⟩

end ArchDiagram.Source
