import ArchDiagram.Proofs.Source.RoundTrip
import ArchDiagram.Proofs.Source.Spelling

namespace ArchDiagram.Source

section WellFormed

variable {α : Type} {d : Diagram α} (h : d.WellFormed)
include h

/-- In a well-formed diagram a node belongs to the container that it names. -/
theorem ownerId?_of_wellFormed {node : Node α} (hm : node ∈ d.nodes) :
    ownerId? d node = node.owner := by
  rw [ownerId?]
  cases hl : d.containerList.find? (·.children.contains node.id) with
  | some container =>
    have hlisted : node.id ∈ container.children := by simpa using List.find?_some hl
    have howner :=
      (h.owner_iff node hm container.id).mpr ⟨container, List.mem_of_find?_eq_some hl, rfl, hlisted⟩
    rw [howner]
    rfl
  | none =>
    cases ho : node.owner with
    | none => rfl
    | some id =>
      obtain ⟨container, hc, -, hlisted⟩ := (h.owner_iff node hm id).mp ho
      have hnot := List.find?_eq_none.mp hl container hc
      simp [hlisted] at hnot

theorem outside_of_wellFormed : outside d = d.nodes.filter (·.owner.isNone) := by
  apply List.filter_congr
  intro node hm
  rw [← ownerId?_of_wellFormed h hm, Bool.eq_iff_iff, Option.isNone_iff_eq_none,
    Option.isNone_iff_eq_none, ownerIndex?_eq_none_iff]

theorem map_id_children {container : Container α} (hc : container ∈ d.containerList) :
    (container.children.filterMap d.node?).map (·.id) = container.children := by
  have hknown : ∀ child ∈ container.children, (d.node? child).map (·.id) = some child := by
    intro child hchild
    obtain ⟨node, hm, rfl⟩ := List.mem_map.mp ((h.inOrder container hc).subset hchild)
    rw [(node?_eq_some_iff h.nodeIds).mpr ⟨hm, rfl⟩]
    rfl
  rw [List.map_filterMap, List.filterMap_congr hknown, List.filterMap_some]

/-- The members of a container are its children in their order. -/
theorem members_of_wellFormed {i : Nat} {container : Container α}
    (hi : d.containerList[i]? = some container) :
    members d i container = container.children.filterMap d.node? := by
  have hc := List.mem_of_getElem? hi
  have hbelongs {node : Node α} (hm : node ∈ d.nodes) :
      ownerIndex? d node = some i ↔ node.id ∈ container.children := by
    rw [ownerIndex?_eq_some_iff h.containerIds hi, ownerId?_of_wellFormed h hm, h.owner_iff node hm]
    constructor
    · intro ho
      obtain ⟨other, hother, hid, hlisted⟩ := ho
      obtain rfl := List.inj_on_of_nodup_map h.containerIds hother hc hid
      exact hlisted
    · exact fun hlisted => ⟨container, hc, rfl, hlisted⟩
  have hlisted : listed d i container = container.children.filterMap d.node? := by
    refine List.filter_eq_self.mpr fun node hm => ?_
    obtain ⟨child, hchild, hnode⟩ := List.mem_filterMap.mp hm
    obtain ⟨hin, rfl⟩ := (node?_eq_some_iff h.nodeIds).mp hnode
    simp [(hbelongs hin).mpr hchild]
  have hothers : (d.nodes.filter fun node =>
      ownerIndex? d node == some i && !(listed d i container).any (·.id == node.id)) = [] := by
    refine List.filter_eq_nil_iff.mpr fun node hm => ?_
    by_cases ho : ownerIndex? d node = some i
    · simp [any_listed h.nodeIds hm ho, (hbelongs hm).mp ho]
    · simp [ho]
  rw [members_eq h.nodeIds, hothers, hlisted, List.append_nil]

theorem filled_of_wellFormed : filled d = d.containerList.map fun container =>
    (container, container.children.filterMap d.node?) := by
  rw [← map_fst_filled d, List.map_map]
  conv_lhs => rw [← List.map_id (filled d)]
  apply List.map_congr_left
  intro item hm
  obtain ⟨i, hi, hmembers⟩ := filled_get hm
  rw [members_of_wellFormed h hi] at hmembers
  exact Prod.ext rfl hmembers

end WellFormed

/-- The nodes in the order in which they are written: the uncontained ones, then those of each
container. -/
def grouped {α : Type} (d : Diagram α) : List (Node α) :=
  d.nodes.filter (·.owner.isNone) ++ d.containerList.flatMap (·.children.filterMap d.node?)

variable {title source : String} {d : Diagram Float}

theorem writable_of_compile (ht : '\n' ∉ title.toList) (h : compile title source = .ok d) :
    Writable d := by
  have hwf := wellFormed_of_compile h
  have hkept := lossless_of_compile h
  refine ⟨hwf.nodeIds, hwf.containerIds, ?_, ?_, hwf.linkEnds, ?_, ?_, ?_, ?_⟩
  · exact fun node hm => ⟨(hkept.nodes node hm).id, (hkept.nodes node hm).label.whole⟩
  · exact fun container hm =>
      ⟨(hkept.containers container hm).id, (hkept.containers container hm).label.whole⟩
  · intro link hm label hl
    rw [links_of_compile h] at hm
    obtain ⟨item, hitem, rfl⟩ := List.mem_map.mp hm
    exact (hkept.links item.2 (Text.mem_of_mem_numbered hitem) label hl).whole
  · exact fun container hm child hc => (hwf.inOrder container hm).subset hc
  · exact fun container hm => hwf.nodeIds.sublist (hwf.inOrder container hm)
  · rwa [title_of_compile h]

theorem rereadNodes_of_compile (h : compile title source = .ok d) : rereadNodes d = grouped d := by
  have hwf := wellFormed_of_compile h
  have hkept := lossless_of_compile h
  rw [rereadNodes, grouped, outside_of_wellFormed hwf, filled_of_wellFormed hwf, List.flatMap_map]
  congr 1
  · conv_rhs => rw [← List.map_id (d.nodes.filter (·.owner.isNone))]
    apply List.map_congr_left
    intro node hm
    obtain ⟨hin, hnone⟩ := List.mem_filter.mp hm
    rw [← Option.isNone_iff_eq_none.mp hnone]
    exact (hkept.nodes node hin).reread_eq
  · apply List.flatMap_congr
    intro container hc
    change (container.children.filterMap d.node?).map (reread · (some container.id)) = _
    conv_rhs => rw [← List.map_id (container.children.filterMap d.node?)]
    apply List.map_congr_left
    intro node hm
    obtain ⟨child, hchild, hnode⟩ := List.mem_filterMap.mp hm
    obtain ⟨hin, rfl⟩ := (node?_eq_some_iff hwf.nodeIds).mp hnode
    rw [← (hwf.owner_iff node hin container.id).mpr ⟨container, hc, rfl, hchild⟩]
    exact (hkept.nodes node hin).reread_eq

theorem rereadContainers_of_compile (h : compile title source = .ok d) :
    rereadContainers d = d.containerList := by
  have hwf := wellFormed_of_compile h
  have hkept := lossless_of_compile h
  rw [rereadContainers, filled_of_wellFormed hwf, List.map_map]
  conv_rhs => rw [← List.map_id d.containerList]
  apply List.map_congr_left
  intro container hc
  rw [Function.comp_apply, map_id_children hwf hc]
  exact (hkept.containers container hc).rereadContainer_eq

theorem linkDecls_of_compile (h : compile title source = .ok d) :
    d.links.map linkDecl = linkDecls source.toList := by
  have hkept := (lossless_of_compile h).links
  have hdecl : ∀ item ∈ Text.numbered (linkDecls source.toList),
      linkDecl (item.2.link item.1) = item.2 := by
    intro item hm
    have hlabel : item.2.label.map cleaned = item.2.label := by
      cases hl : item.2.label with
      | none => rfl
      | some label =>
        rw [Option.map_some, (hkept item.2 (Text.mem_of_mem_numbered hm) label hl).cleaned]
    simp [linkDecl, LinkDecl.link, hlabel]
  rw [links_of_compile h, List.map_map]
  conv_rhs => rw [← Text.map_snd_numbered (linkDecls source.toList)]
  exact List.map_congr_left hdecl

/-- What a compiled diagram compiles to after it was written. -/
theorem compile_toSource_eq (ht : '\n' ∉ title.toList) (h : compile title source = .ok d) :
    compile title (toSource d) = .ok { d with nodes := grouped d } := by
  rw [(writable_of_compile ht h).compile_of_texts floatNearest_inRange rfl title,
    rereadNodes_of_compile h, rereadContainers_of_compile h, linkDecls_of_compile h,
    ← links_of_compile h, ← containers_of_compile h, ← title_of_compile h]

theorem grouped_perm (ht : '\n' ∉ title.toList) (h : compile title source = .ok d) :
    (grouped d).Perm d.nodes := by
  have hwf := wellFormed_of_compile h
  have hperm := (writable_of_compile ht h).legible.perm
  rwa [outside_of_wellFormed hwf, filled_of_wellFormed hwf, List.flatMap_map] at hperm

/-- The source is made of the uncontained nodes, of the containers with their members, and of the
links. -/
theorem parts_eq {α : Type} [Scalar α] (d : Diagram α) :
    parts d = [titleLines d ++ (outside d).map (nodeLine [])] ++
      ((filled d).map fun item => [containerLine item.1] ++ item.2.map (nodeLine margin) ++
        [[closeBrace]]) ++
      [d.links.map linkLine] := by
  rw [filled, List.map_map]
  rfl

/-- Grouping the nodes changes nothing of what is written. -/
theorem toSource_grouped (ht : '\n' ∉ title.toList) (h : compile title source = .ok d) :
    toSource { d with nodes := grouped d } = toSource d := by
  have hwf := wellFormed_of_compile h
  have hwf' := wellFormed_of_compile (compile_toSource_eq ht h)
  have hperm := grouped_perm ht h
  have hnode : ({ d with nodes := grouped d } : Diagram Float).node? = d.node? := by
    funext id
    rw [Option.ext_iff]
    intro node
    rw [node?_eq_some_iff hwf'.nodeIds, node?_eq_some_iff hwf.nodeIds]
    exact and_congr_left' hperm.mem_iff
  have hfilled : filled ({ d with nodes := grouped d } : Diagram Float) = filled d := by
    rw [filled_of_wellFormed hwf', filled_of_wellFormed hwf, hnode]
    rfl
  have hinside :
      (d.containerList.flatMap (·.children.filterMap d.node?)).filter (·.owner.isNone) = [] := by
    refine List.filter_eq_nil_iff.mpr fun node hm => ?_
    obtain ⟨container, hc, hm⟩ := List.mem_flatMap.mp hm
    obtain ⟨child, hchild, hfound⟩ := List.mem_filterMap.mp hm
    obtain ⟨hin, rfl⟩ := (node?_eq_some_iff hwf.nodeIds).mp hfound
    simp [(hwf.owner_iff node hin container.id).mpr ⟨container, hc, rfl, hchild⟩]
  have houtside : outside ({ d with nodes := grouped d } : Diagram Float) = outside d := by
    rw [outside_of_wellFormed hwf', outside_of_wellFormed hwf]
    change (grouped d).filter _ = _
    rw [grouped, List.filter_append, hinside, List.append_nil, List.filter_filter]
    simp
  have hparts : parts ({ d with nodes := grouped d } : Diagram Float) = parts d := by
    rw [parts_eq, parts_eq, hfilled, houtside]
    rfl
  rw [toSource, toSource, hparts]

/-- A compiled diagram that is written and compiled again is the same but for the order of its
nodes, and its source is the same again. The numbers are those of the first compilation, also where
it rounded them. -/
theorem compile_toSource_fixed (ht : '\n' ∉ title.toList) (h : compile title source = .ok d) :
    ∃ d', compile title (toSource d) = .ok d' ∧ d'.links = d.links ∧ d'.containers = d.containers ∧
      d'.nodes.Perm d.nodes ∧
      d'.nodes = d.nodes.filter (·.owner.isNone) ++
        d.containerList.flatMap (·.children.filterMap d.node?) ∧
      toSource d' = toSource d :=
  ⟨_, compile_toSource_eq ht h, rfl, rfl, grouped_perm ht h, rfl, toSource_grouped ht h⟩

/-- Nodes around and inside of nested blocks, with numbers at the ends of the range and with one
that is too long for a mantissa. -/
def nestedSource : String :=
  "web <-> db: \"reads\"\ncontainer c: \"Shop\" type=vpc x=-9223372036854775808 y=0 width=9 height=9 \x7b\n" ++
  "node web: \"\" icon=server x=9223372036854775807 y=1\n" ++
  "container e: \"\" type=subnet x=9007199254740993 y=0 width=9 height=9 \x7b\n" ++
  "node db: \"\" icon=cache x=5 y=-5 height=7\n\x7d\nnode job: \"\" icon=function x=0 y=0\n\x7d\n" ++
  "node user: \"\" icon=user x=9007199254740993 y=-9007199254740995"

theorem compile_toSource_fixed_nested : '\n' ∉ "Shop".toList ∧
    ∃ d : Diagram Float, compile "Shop" nestedSource = .ok d ∧
      ∃ d', compile "Shop" (toSource d) = .ok d' ∧ d'.links = d.links ∧
      d'.containers = d.containers ∧
        d'.nodes.Perm d.nodes ∧
        d'.nodes = d.nodes.filter (·.owner.isNone) ++
          d.containerList.flatMap (·.children.filterMap d.node?) ∧
        toSource d' = toSource d := by
  have ht : '\n' ∉ "Shop".toList := by decide
  have hok : (compile "Shop" nestedSource : Except Failure (Diagram Float)).isOk = true := by
    decide +kernel
  cases hc : (compile "Shop" nestedSource : Except Failure (Diagram Float)) with
  | ok d => exact ⟨ht, d, rfl, compile_toSource_fixed ht hc⟩
  | error failure =>
    rw [hc] at hok
    contradiction

end ArchDiagram.Source
