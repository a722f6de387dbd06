import ArchDiagram.Proofs.Decimal.Nearest
import ArchDiagram.Proofs.Source.Entries

namespace ArchDiagram.Source

variable {α : Type} [Scalar α]

/-- A diagram whose lines are read as they were written: ids are fit for source and told apart, no
node is listed twice by a container, and no text goes over a line. Links and containers may name
unknown nodes. -/
structure Legible (d : Diagram α) : Prop where
  nodeIds : (d.nodes.map (·.id)).Nodup
  containerIds : (d.containerList.map (·.id)).Nodup
  nodes : ∀ node ∈ d.nodes, IsId node.id ∧ '\n' ∉ node.label.toList
  containers : ∀ container ∈ d.containerList, IsId container.id ∧ '\n' ∉ container.label.toList
  ends : ∀ link ∈ d.links, IsId link.source ∧ IsId link.target
  labels : ∀ link ∈ d.links, ∀ label ∈ link.label, '\n' ∉ label.toList
  once : ∀ container ∈ d.containerList, container.children.Nodup
  title : '\n' ∉ d.title.toList

/-- A diagram whose source can be compiled again: ids are fit for source and told apart, links and
containers name nodes of the diagram, and no text goes over a line. -/
structure Writable (d : Diagram α) : Prop where
  nodeIds : (d.nodes.map (·.id)).Nodup
  containerIds : (d.containerList.map (·.id)).Nodup
  nodes : ∀ node ∈ d.nodes, IsId node.id ∧ '\n' ∉ node.label.toList
  containers : ∀ container ∈ d.containerList, IsId container.id ∧ '\n' ∉ container.label.toList
  ends : ∀ link ∈ d.links, link.source ∈ d.nodes.map (·.id) ∧ link.target ∈ d.nodes.map (·.id)
  labels : ∀ link ∈ d.links, ∀ label ∈ link.label, '\n' ∉ label.toList
  children : ∀ container ∈ d.containerList, ∀ child ∈ container.children, child ∈ d.nodes.map (·.id)
  once : ∀ container ∈ d.containerList, container.children.Nodup
  title : '\n' ∉ d.title.toList

/-- The nodes in the order in which they are written. -/
def rereadNodes (d : Diagram α) : List (Node α) :=
  (outside d).map (reread · none) ++ (filled d).flatMap fun item =>
    item.2.map (reread · (some item.1.id))

def rereadContainers (d : Diagram α) : List (Container α) :=
  (filled d).map fun item => rereadContainer item.1 (item.2.map (·.id))

namespace Legible

variable {d : Diagram α} (h : Legible d)
include h

omit [Scalar α] in
theorem filled_mem {item : Container α × List (Node α)} (hm : item ∈ filled d) :
    item.1 ∈ d.containerList ∧ ∀ node ∈ item.2, node ∈ d.nodes := by
  obtain ⟨i, hi, hmembers⟩ := filled_get hm
  rw [hmembers]
  exact ⟨List.mem_of_getElem? hi, fun node hn => ((mem_members_iff h.nodeIds).mp hn).1⟩

omit [Scalar α] in
theorem perm : (outside d ++ (filled d).flatMap (·.2)).Perm d.nodes := by
  have hp := written_perm h.nodeIds h.once
  rw [filled, List.flatMap_map]
  exact hp

/-- The statements of the source of a diagram. -/
theorem texts_toSource : texts (toSource d).toList =
    (outside d).map (nodeLine []) ++ (filled d).flatMap blockTexts ++ d.links.map linkLine := by
  have hids : FitIds d := ⟨fun node hm => (h.nodes node hm).1, fun c hm => (h.containers c hm).1⟩
  have hlabels : OneLineLabels d :=
    ⟨fun node hm => (h.nodes node hm).2, fun c hm => (h.containers c hm).2, h.labels⟩
  rw [texts_of_entries (fun _ hm => hids.named_of_ends h.nodeIds h.ends hm)
      (fun _ hm => hlabels.whole h.nodeIds hm), titleRest_of_not_mem h.title, map_text_entries]
  rfl

theorem perm_ids : ((rereadNodes d).map (·.id)).Perm (d.nodes.map (·.id)) := by
  have hp := h.perm.map (·.id)
  simpa [rereadNodes, Function.comp_def, List.map_flatMap] using hp

/-- The statements lead from nothing to the diagram. -/
theorem leads_texts (hrange : ∀ x : α, Scan.inRange (Scalar.nearest x) = true) :
    Leads (texts (toSource d).toList) ⟨[], [], [], []⟩
      ⟨rereadNodes d, rereadContainers d, [], d.links.map linkDecl⟩ := by
  have hids : (((outside d).map (reread · none)).map (·.id) ++
      (filled d).flatMap (·.2.map (·.id))).Nodup := by
    have hp := h.perm_ids.nodup_iff.mpr h.nodeIds
    simpa [rereadNodes, Function.comp_def, List.map_flatMap] using hp
  have hnodes : Leads ((outside d).map (nodeLine [])) ⟨[], [], [], []⟩
      ⟨(outside d).map (reread · none), [], [], []⟩ := by
    refine Leads.nodes hrange (s := ⟨[], [], [], []⟩) ?_ ?_
    · intro node hm
      exact h.nodes node (List.mem_of_mem_filter hm)
    · simpa [Function.comp_def] using (List.nodup_append.mp hids).1
  have hblocks : Leads ((filled d).flatMap blockTexts)
      ⟨(outside d).map (reread · none), [], [], []⟩
        ⟨rereadNodes d, rereadContainers d, [], []⟩ := by
    refine Leads.blocks hrange ?_ ?_ ?_ hids
    · intro item hm
      exact h.containers item.1 (h.filled_mem hm).1
    · intro item hm node hn
      exact h.nodes node ((h.filled_mem hm).2 node hn)
    · change ((filled d).map ((·.id) ∘ Prod.fst)).Nodup
      rw [← List.map_map, map_fst_filled]
      exact h.containerIds
  have hlinks := Leads.links (s := ⟨rereadNodes d, rereadContainers d, [], []⟩) h.ends h.labels
  rw [h.texts_toSource]
  exact (hnodes.append hblocks).append hlinks

theorem at_toSource (hrange : ∀ x : α, Scan.inRange (Scalar.nearest x) = true) :
    ((sourceLines (toSource d).toList).foldl Progress.step ({} : Progress α)).At
      ⟨rereadNodes d, rereadContainers d, [], d.links.map linkDecl⟩ :=
  h.leads_texts hrange {} _ (map_text_sourceLines _) ⟨rfl, rfl, rfl, rfl, rfl⟩

/-- Whatever a legible diagram is compiled to has its nodes and containers, each as it was
written. -/
theorem parts_of_compile (hrange : ∀ x : α, Scan.inRange (Scalar.nearest x) = true) {title : String}
    {d' : Diagram α} (hc : compile title (toSource d) = .ok d') :
    d'.nodes = rereadNodes d ∧ d'.containerList = rereadContainers d := by
  have hat := h.at_toSource hrange
  rw [compile] at hc
  generalize (sourceLines (toSource d).toList).foldl Progress.step ({} : Progress α) = p at hat hc
  obtain ⟨-, rfl⟩ := Progress.finish_eq_ok hc
  exact ⟨hat.nodes, (p.containerList_eq title p.resolvedLinks).trans hat.containers⟩

/-- A legible diagram is compiled again exactly if its links join nodes of the diagram. -/
theorem exists_compile_iff (hrange : ∀ x : α, Scan.inRange (Scalar.nearest x) = true)
    (title : String) :
    (∃ d' : Diagram α, compile title (toSource d) = .ok d') ↔
      ∀ link ∈ d.links, link.source ∈ d.nodes.map (·.id) ∧ link.target ∈ d.nodes.map (·.id) := by
  have hat := h.at_toSource hrange
  have hids := h.perm_ids
  simp only [compile]
  generalize (sourceLines (toSource d).toList).foldl Progress.step ({} : Progress α) = p at hat ⊢
  have hlinks : p.links.map (·.decl) = d.links.map linkDecl := hat.links
  have hnodes : p.nodeIds = (rereadNodes d).map (·.id) := congrArg _ hat.nodes
  constructor
  · intro hc link hm
    obtain ⟨d', hc⟩ := hc
    obtain ⟨⟨-, -, hends⟩, -⟩ := Progress.finish_eq_ok hc
    have hdecl : linkDecl link ∈ p.links.map (·.decl) := by
      rw [hlinks]
      exact List.mem_map_of_mem hm
    obtain ⟨pending, hp, he⟩ := List.mem_map.mp hdecl
    have hknown := (p.unknownEnd?_eq_none_iff pending.decl).mp (hends pending hp)
    rw [he, hnodes, hids.mem_iff, hids.mem_iff] at hknown
    exact hknown
  · intro hends
    refine ⟨_, hat.finish rfl ?_ title⟩
    intro decl hm
    obtain ⟨link, hl, rfl⟩ := List.mem_map.mp hm
    exact ⟨hids.mem_iff.mpr (hends link hl).1, hids.mem_iff.mpr (hends link hl).2⟩

end Legible

namespace Writable

variable {d : Diagram α} (h : Writable d)
include h

omit [Scalar α] in
theorem legible : Legible d := by
  have hid {id : String} (hi : id ∈ d.nodes.map (·.id)) : IsId id := by
    obtain ⟨node, hn, rfl⟩ := List.mem_map.mp hi
    exact (h.nodes node hn).1
  exact ⟨h.nodeIds, h.containerIds, h.nodes, h.containers,
    fun link hm => ⟨hid (h.ends link hm).1, hid (h.ends link hm).2⟩, h.labels, h.once, h.title⟩

omit [Scalar α] in
theorem known {container : Container α} (hc : container ∈ d.containerList) {child : String}
    (hm : child ∈ container.children) : ∃ node ∈ d.nodes, node.id = child :=
  List.mem_map.mp (h.children container hc child hm)

omit [Scalar α] in
theorem fitIds : FitIds d :=
  ⟨fun node hm => (h.nodes node hm).1, fun container hm => (h.containers container hm).1⟩

omit [Scalar α] in
theorem oneLineLabels : OneLineLabels d :=
  ⟨fun node hm => (h.nodes node hm).2, fun container hm => (h.containers container hm).2, h.labels⟩

omit [Scalar α] in
theorem violations_eq_nil : d.violations = [] :=
  d.violations_eq_nil_iff.mpr ⟨h.nodeIds, h.ends, h.children⟩

/-- A source with the statements of the diagram compiles to the diagram. -/
theorem compile_of_texts (hrange : ∀ x : α, Scan.inRange (Scalar.nearest x) = true)
    {source : String} (ht : texts source.toList = texts (toSource d).toList) (title : String) :
    compile title source = .ok
      { title
        nodes := rereadNodes d
        links := (Text.numbered (d.links.map linkDecl)).map fun item => item.2.link item.1
        containers := if (rereadContainers d).isEmpty then none
          else some (rereadContainers d) } := by
  have hleads := h.legible.leads_texts hrange
  rw [← ht] at hleads
  have hat := hleads {} _ (map_text_sourceLines _) ⟨rfl, rfl, rfl, rfl, rfl⟩
  refine hat.finish rfl ?_ title
  intro decl hm
  obtain ⟨link, hl, rfl⟩ := List.mem_map.mp hm
  have hids := h.legible.perm_ids
  exact ⟨hids.mem_iff.mpr (h.ends link hl).1, hids.mem_iff.mpr (h.ends link hl).2⟩

theorem rereadNodes_perm :
    (rereadNodes d).Perm (d.nodes.map fun node => reread node (ownerId? d node)) := by
  have hnodes : rereadNodes d =
      (outside d ++ (filled d).flatMap (·.2)).map fun node => reread node (ownerId? d node) := by
    rw [rereadNodes, List.map_append, List.map_flatMap]
    congr 1
    · apply List.map_congr_left
      intro node hm
      have hnone := (List.mem_filter.mp hm).2
      rw [ownerIndex?_eq_none_iff.mp (Option.isNone_iff_eq_none.mp hnone)]
    · apply List.flatMap_congr
      intro item hm
      obtain ⟨i, hi, hmembers⟩ := filled_get hm
      apply List.map_congr_left
      intro node hn
      rw [hmembers, mem_members_iff h.nodeIds] at hn
      rw [(ownerIndex?_eq_some_iff h.containerIds hi).mp hn.2]
  rw [hnodes]
  exact h.legible.perm.map _

theorem rereadContainers_eq :
    rereadContainers d =
      d.containerList.map fun container => rereadContainer container (ownedIds d container) := by
  rw [rereadContainers, ← map_fst_filled d, List.map_map]
  apply List.map_congr_left
  intro item hm
  obtain ⟨i, hi, hmembers⟩ := filled_get hm
  have hc := (h.legible.filled_mem hm).1
  rw [hmembers, map_id_members h.nodeIds h.containerIds hi fun child hchild => h.known hc hchild]
  rfl

end Writable

section Boxes

/-- What a written number is read as: it is rounded to an integer, a half away from zero, and moved
into the signed 64-bit range. -/
def rereadNumber (x : Float) : Float :=
  Float.ofInt (saturated (roundAway (Decimal.Binary.ofFloat x).value))

/-- A node after it was written and read: its label is cleaned, its box has whole numbers, its style
is gone, and its container is the one that it belongs to. -/
def savedNode (d : Diagram Float) (node : Node Float) : Node Float :=
  { id := node.id
    label := cleaned node.label
    icon := node.icon
    x := rereadNumber node.x
    y := rereadNumber node.y
    width := rereadNumber node.width
    height := rereadNumber node.height
    owner := ownerId? d node }

/-- A container after it was written and read, with the nodes that belong to it. -/
def savedContainer (d : Diagram Float) (container : Container Float) : Container Float :=
  { id := container.id
    label := cleaned container.label
    kind := container.kind
    x := rereadNumber container.x
    y := rereadNumber container.y
    width := rereadNumber container.width
    height := rereadNumber container.height
    children := ownedIds d container }

/-- A link after it was written and read. Its id is its number. -/
def savedLink (number : Nat) (link : Link) : Link :=
  { id := "link-" ++ toString number
    source := link.source
    target := link.target
    label := link.label.map cleaned
    bidirectional := link.bidirectional }

structure FiniteBoxes (d : Diagram Float) : Prop where
  nodes : ∀ node ∈ d.nodes, node.x.isFinite = true ∧ node.y.isFinite = true ∧
    node.width.isFinite = true ∧ node.height.isFinite = true
  containers : ∀ container ∈ d.containerList, container.x.isFinite = true ∧
    container.y.isFinite = true ∧ container.width.isFinite = true ∧ container.height.isFinite = true

theorem rereadNumber_eq {x : Float} (h : x.isFinite = true) :
    ((Scalar.nearest x : Int) : Float) = rereadNumber x := by
  rw [rereadNumber, ← floatNearest_of_finite h]
  rfl

variable {d : Diagram Float}

theorem reread_eq_savedNode (hf : FiniteBoxes d) {node : Node Float} (hm : node ∈ d.nodes) :
    reread node (ownerId? d node) = savedNode d node := by
  obtain ⟨hx, hy, hwidth, hheight⟩ := hf.nodes node hm
  rw [savedNode, ← rereadNumber_eq hx, ← rereadNumber_eq hy, ← rereadNumber_eq hwidth,
    ← rereadNumber_eq hheight]
  rfl

theorem rereadContainer_eq_savedContainer (hf : FiniteBoxes d) {container : Container Float}
    (hm : container ∈ d.containerList) :
    rereadContainer container (ownedIds d container) = savedContainer d container := by
  obtain ⟨hx, hy, hwidth, hheight⟩ := hf.containers container hm
  rw [savedContainer, ← rereadNumber_eq hx, ← rereadNumber_eq hy, ← rereadNumber_eq hwidth,
    ← rereadNumber_eq hheight]
  rfl

/-- A written diagram compiles to one with the same nodes, containers and links. Every node is in
the container that it belongs to and in no other. -/
theorem compile_toSource (title : String) (hw : Writable d) (hf : FiniteBoxes d) :
    ∃ d', compile title (toSource d) = .ok d' ∧ d'.title = title ∧
      d'.nodes.Perm (d.nodes.map (savedNode d)) ∧
      d'.containers =
        (if d.containerList = [] then none else some (d.containerList.map (savedContainer d))) ∧
      d'.links = (Text.numbered d.links).map fun item => savedLink item.1 item.2 := by
  have hnodes : (d.nodes.map fun node => reread node (ownerId? d node)) =
      d.nodes.map (savedNode d) :=
    List.map_congr_left fun node hm => reread_eq_savedNode hf hm
  have hcontainers : rereadContainers d = d.containerList.map (savedContainer d) := by
    rw [hw.rereadContainers_eq]
    exact List.map_congr_left fun container hm => rereadContainer_eq_savedContainer hf hm
  refine ⟨_, hw.compile_of_texts floatNearest_inRange rfl title, rfl,
    hnodes ▸ hw.rereadNodes_perm, ?_, ?_⟩
  · simp only [hcontainers, List.isEmpty_iff, List.map_eq_nil_iff]
  · simp only [Text.numbered_map, List.map_map]
    rfl

/-- A node that two containers list, one that only names its container, and one in none. -/
def shop : Diagram Float :=
  { title := "Shop"
    nodes :=
      [{ id := "node", label := "a -> b", icon := .server
         x := 0.5, y := -0.5, width := 120, height := 1e30 },
       { id := "db", label := "", icon := .database
         x := 1, y := 2, width := 3, height := 4, owner := some "c" },
       { id := "user", label := "", icon := .user
         x := 1, y := 2, width := 3, height := 4, owner := some "x" }]
    links := [{ id := "a", source := "node", target := "db", bidirectional := true }]
    containers := some
      [{ id := "container", label := "", kind := .vpc
         x := 0, y := 0, width := 9, height := 9, children := ["node"] },
       { id := "c", label := "", kind := .subnet
         x := 0, y := 0, width := 9, height := 9, children := ["node"] }] }

theorem compile_toSource_shop : Writable shop ∧ FiniteBoxes shop ∧
    ∃ d', compile "Again" (toSource shop) = .ok d' ∧ d'.title = "Again" ∧
      d'.nodes.Perm (shop.nodes.map (savedNode shop)) ∧
      d'.containers = some (shop.containerList.map (savedContainer shop)) ∧
      d'.links =
        [savedLink 1 { id := "a", source := "node", target := "db", bidirectional := true }] := by
  have hw : Writable shop := by
    constructor <;> decide +kernel
  have hf : FiniteBoxes shop := by
    constructor <;> decide +kernel
  exact ⟨hw, hf, compile_toSource "Again" hw hf⟩

end Boxes

end ArchDiagram.Source
