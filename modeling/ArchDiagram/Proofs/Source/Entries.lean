import Mathlib.Algebra.BigOperators.Group.List.Basic
import ArchDiagram.Proofs.Decimal.Nearest
import ArchDiagram.Proofs.Diagram.Consistency
import ArchDiagram.Proofs.Source.Leads
import ArchDiagram.Proofs.Source.Members

namespace ArchDiagram.Source

variable {α : Type}

/-- What a line is written for. -/
inductive Entry (α : Type)
  | node (margin : List Char) (node : Node α)
  | opening (container : Container α)
  | closing
  | link (link : Link)

namespace Entry

def nodeId? : Entry α → Option String
  | .node _ n => some n.id
  | _ => none

def label? : Entry α → Option String
  | .node _ n => some n.label
  | .opening container => some container.label
  | .closing => none
  | .link l => l.label

variable [Scalar α]

def line : Entry α → List Char
  | .node margin n => nodeLine margin n
  | .opening container => containerLine container
  | .closing => [closeBrace]
  | .link l => linkLine l

/-- The line without the blanks in front of it. -/
def text : Entry α → List Char
  | .node _ n => nodeLine [] n
  | entry => entry.line

def statement : Entry α → Statement
  | .node _ n => .node (nodeDecl n)
  | .opening container => .container (containerDecl container)
  | .closing => .close
  | .link l => .link (linkDecl l)

/-- Ids are fit for source, and margins are blank. -/
def Named : Entry α → Prop
  | .node margin n => (∀ c ∈ margin, c = ' ') ∧ IsId n.id
  | .opening container => IsId container.id
  | .closing => True
  | .link l => IsId l.source ∧ IsId l.target

/-- The label does not go over the line. -/
def Whole (entry : Entry α) : Prop := ∀ label ∈ entry.label?, '\n' ∉ label.toList

theorem gives {entry : Entry α} (h : entry.Named) (hw : entry.Whole) :
    Gives [entry.line] [entry.text] := by
  cases entry with
  | node margin node =>
    obtain ⟨hmargin, hid⟩ := h
    have hline : nodeLine margin node = margin ++ nodeLine [] node := by simp [nodeLine]
    rw [line, text, hline]
    exact Gives.of_isLine (isLine_nodeLine hid (hw _ rfl)) hmargin
  | opening container =>
    exact Gives.of_isLine (m := []) (isLine_containerLine h (hw _ rfl)) (by simp)
  | closing => exact Gives.of_isLine (m := []) isLine_closeBrace (by simp)
  | link link =>
    obtain ⟨hs, ht⟩ := h
    exact Gives.of_isLine (m := []) (isLine_linkLine hs ht hw) (by simp)

theorem readStatement_text (hrange : ∀ x : α, Scan.inRange (Scalar.nearest x) = true)
    {entry : Entry α} (h : entry.Named) (hw : entry.Whole) :
    readStatement entry.text = .ok entry.statement := by
  cases entry with
  | node margin node => exact readStatement_nodeLine hrange h.2 (hw _ rfl)
  | opening container => exact readStatement_containerLine hrange h (hw _ rfl)
  | closing => exact readStatement_closeBrace
  | link link => exact readStatement_linkLine h.1 h.2 hw

end Entry

def titleLines (d : Diagram α) : List (List Char) :=
  if d.title.isEmpty then [] else [commentMark ++ [' '] ++ d.title.toList]

/-- What the lines behind the title are written for. -/
def entries (d : Diagram α) : List (Entry α) :=
  (outside d).map (.node []) ++
    (filled d).flatMap (fun item => [.opening item.1] ++ item.2.map (.node margin) ++ [.closing]) ++
    d.links.map .link

/-- The ids of the nodes that are written, one for each line. -/
def statedIds (d : Diagram α) : List String := (entries d).filterMap Entry.nodeId?

theorem statedIds_eq (d : Diagram α) :
    statedIds d = (outside d).map (·.id) ++ (filled d).flatMap (·.2.map (·.id)) := by
  have hnodes (margin : List Char) (nodes : List (Node α)) :
      (nodes.map (Entry.node margin)).filterMap Entry.nodeId? = nodes.map (·.id) := by
    rw [List.filterMap_map]
    exact congrFun List.filterMap_eq_map' nodes
  have hlinks : (d.links.map (Entry.link (α := α))).filterMap Entry.nodeId? = [] := by
    simp [Entry.nodeId?]
  rw [statedIds, entries, List.filterMap_append, List.filterMap_append, hnodes, hlinks,
    List.append_nil, List.filterMap_flatMap]
  congr 1
  apply List.flatMap_congr
  intro item _
  rw [List.filterMap_append, List.filterMap_append, hnodes]
  change [] ++ item.2.map (·.id) ++ [] = _
  rw [List.nil_append, List.append_nil]

section Lines

variable [Scalar α]

theorem flatten_parts (d : Diagram α) :
    (parts d).flatten = titleLines d ++ (entries d).map Entry.line := by
  have hnode (margin : List Char) : Entry.line ∘ Entry.node margin = nodeLine (α := α) margin := rfl
  have hlink : Entry.line (α := α) ∘ Entry.link = linkLine := rfl
  have hfilled : ((filled d).flatMap fun item =>
      [Entry.opening item.1] ++ item.2.map (Entry.node margin) ++ [Entry.closing]).map Entry.line =
      d.containerList.zipIdx.flatMap fun item => containerLines d item.2 item.1 := by
    rw [filled, List.map_flatMap, List.flatMap_map]
    apply List.flatMap_congr
    intro item _
    simp [containerLines, hnode, Entry.line]
  rw [parts, entries, headLines, titleLines, List.map_append, List.map_append, hfilled]
  simp [hnode, hlink, outside, List.flatMap_def]

theorem map_text_entries (d : Diagram α) : (entries d).map Entry.text =
    (outside d).map (nodeLine []) ++ (filled d).flatMap blockTexts ++ d.links.map linkLine := by
  have hnode (margin : List Char) : Entry.text ∘ Entry.node margin = nodeLine (α := α) [] := rfl
  have hlink : Entry.text (α := α) ∘ Entry.link = linkLine := rfl
  rw [entries, List.map_append, List.map_append, List.map_flatMap, List.map_map, List.map_map,
    hnode, hlink]
  congr 2
  apply List.flatMap_congr
  intro item _
  rw [List.map_append, List.map_append, List.map_map, hnode]
  rfl

/-- The statements of a source are those of its lines, each taken by itself. -/
theorem texts_toSource_eq (d : Diagram α) : texts (toSource d).toList =
    (titleLines d).flatMap texts ++ (entries d).flatMap fun entry => texts entry.line := by
  have hparts : ((parts d).filter (!·.isEmpty)).flatten =
      titleLines d ++ (entries d).map Entry.line := by
    rw [List.flatten_filter_not_isEmpty, flatten_parts]
  rw [toSource, String.toList_ofList, texts_intercalate, hparts, List.flatMap_append,
    List.flatMap_map]

/-- What a title has behind its first line feed. -/
def titleRest (title : String) : List Char := (title.toList.dropWhile (· ≠ '\n')).tail

omit [Scalar α] in
theorem titleRest_of_not_mem {title : String} (h : '\n' ∉ title.toList) : titleRest title = [] := by
  rw [titleRest, List.dropWhile_eq_nil_iff.mpr]
  · rfl
  · intro c hc
    simpa using fun he : c = '\n' => h (he ▸ hc)

omit [Scalar α] in
/-- Only the first line of a title is a comment. -/
theorem texts_titleLines (d : Diagram α) :
    (titleLines d).flatMap texts = texts (titleRest d.title) := by
  have hcomment {u : List Char} (hu : '\n' ∉ u) :
      [Text.trim (commentMark ++ [' '] ++ u)].filter holdsStatement = [] := (Gives.comment hu).kept
  rw [titleLines]
  split_ifs with he
  · have hnil : d.title.toList = [] := by simpa using he
    rw [titleRest, hnil]
    rfl
  · rw [List.flatMap_singleton]
    by_cases h : '\n' ∈ d.title.toList
    · obtain ⟨u, rest, htitle, hu⟩ := List.eq_append_cons_of_mem h
      have hrest : titleRest d.title = rest := by
        rw [titleRest, htitle, List.dropWhile_append_of_pos]
        · simp
        · intro c hc
          simpa using fun he : c = '\n' => hu (he ▸ hc)
      have hline : '\n' ∉ commentMark ++ [' '] ++ u := by simpa [commentMark] using hu
      rw [hrest, htitle, ← List.append_assoc, texts_append hline, hcomment hu, List.nil_append]
    · have hline : '\n' ∉ commentMark ++ [' '] ++ d.title.toList := by simpa [commentMark] using h
      rw [titleRest_of_not_mem h, texts_of_not_mem hline, hcomment h]
      rfl

structure FitIds (d : Diagram α) : Prop where
  nodes : ∀ node ∈ d.nodes, IsId node.id
  containers : ∀ container ∈ d.containerList, IsId container.id

structure OneLineLabels (d : Diagram α) : Prop where
  nodes : ∀ node ∈ d.nodes, '\n' ∉ node.label.toList
  containers : ∀ container ∈ d.containerList, '\n' ∉ container.label.toList
  links : ∀ link ∈ d.links, ∀ label ∈ link.label, '\n' ∉ label.toList

omit [Scalar α] in
/-- An entry is written for a node, a container or a link of the diagram. -/
theorem entries_cases {d : Diagram α} (hn : d.nodeIds.Nodup) {entry : Entry α}
    (hm : entry ∈ entries d) :
    (∃ m, (∀ c ∈ m, c = ' ') ∧ ∃ node ∈ d.nodes, entry = .node m node) ∨
      (∃ container ∈ d.containerList, entry = .opening container) ∨ entry = .closing ∨
      ∃ link ∈ d.links, entry = .link link := by
  rw [entries, List.mem_append, List.mem_append] at hm
  rcases hm with (hm | hm) | hm
  · obtain ⟨node, hnode, rfl⟩ := List.mem_map.mp hm
    exact Or.inl ⟨[], by simp, node, List.mem_of_mem_filter hnode, rfl⟩
  · obtain ⟨item, hitem, hm⟩ := List.mem_flatMap.mp hm
    obtain ⟨i, hi, hmembers⟩ := filled_get hitem
    rw [List.mem_append, List.mem_append, List.mem_singleton, List.mem_singleton] at hm
    rcases hm with (rfl | hm) | rfl
    · exact Or.inr (Or.inl ⟨item.1, List.mem_of_getElem? hi, rfl⟩)
    · obtain ⟨node, hnode, rfl⟩ := List.mem_map.mp hm
      rw [hmembers, mem_members_iff hn] at hnode
      exact Or.inl ⟨margin, by simp [margin], node, hnode.1, rfl⟩
    · exact Or.inr (Or.inr (Or.inl rfl))
  · obtain ⟨link, hlink, rfl⟩ := List.mem_map.mp hm
    exact Or.inr (Or.inr (Or.inr ⟨link, hlink, rfl⟩))

omit [Scalar α] in
theorem FitIds.named_of_ends {d : Diagram α} (h : FitIds d) (hn : d.nodeIds.Nodup)
    (hends : ∀ link ∈ d.links, IsId link.source ∧ IsId link.target) {entry : Entry α}
    (hm : entry ∈ entries d) : entry.Named := by
  rcases entries_cases hn hm with
    ⟨m, hmargin, node, hnode, rfl⟩ | ⟨container, hcontainer, rfl⟩ | rfl | ⟨link, hlink, rfl⟩
  · exact ⟨hmargin, h.nodes node hnode⟩
  · exact h.containers container hcontainer
  · exact True.intro
  · exact hends link hlink

omit [Scalar α] in
theorem OneLineLabels.whole {d : Diagram α} (h : OneLineLabels d) (hn : d.nodeIds.Nodup)
    {entry : Entry α} (hm : entry ∈ entries d) : entry.Whole := by
  intro label hl
  rcases entries_cases hn hm with
    ⟨m, -, node, hnode, rfl⟩ | ⟨container, hcontainer, rfl⟩ | rfl | ⟨link, hlink, rfl⟩
  · exact Option.some.inj hl ▸ h.nodes node hnode
  · exact Option.some.inj hl ▸ h.containers container hcontainer
  · contradiction
  · exact h.links link hlink label hl

/-- Every line behind the title is a statement when each entry fits its line. -/
theorem texts_of_entries {d : Diagram α} (hnamed : ∀ entry ∈ entries d, entry.Named)
    (hwhole : ∀ entry ∈ entries d, entry.Whole) :
    texts (toSource d).toList = texts (titleRest d.title) ++ (entries d).map Entry.text := by
  have hgives : Gives ((entries d).map Entry.line) ((entries d).map Entry.text) :=
    Gives.map fun entry hm => Entry.gives (hnamed entry hm) (hwhole entry hm)
  rw [texts_toSource_eq, texts_titleLines, ← List.flatMap_map, flatMap_texts hgives.whole,
    hgives.kept]

section Valid

variable {d : Diagram α} (hv : d.violations = [])
include hv

omit [Scalar α] in
theorem FitIds.named (h : FitIds d) {entry : Entry α} (hm : entry ∈ entries d) : entry.Named := by
  have hid {id : String} (hi : id ∈ d.nodeIds) : IsId id := by
    obtain ⟨node, hn, rfl⟩ := List.mem_map.mp hi
    exact h.nodes node hn
  obtain ⟨hn, hends, -⟩ := d.violations_eq_nil_iff.mp hv
  exact h.named_of_ends hn (fun link hl => ⟨hid (hends link hl).1, hid (hends link hl).2⟩) hm

variable (h : FitIds d) (hl : OneLineLabels d)
include h hl

theorem texts_toSource :
    texts (toSource d).toList = texts (titleRest d.title) ++ (entries d).map Entry.text :=
  texts_of_entries (fun _ hm => h.named hv hm)
    fun _ hm => hl.whole (d.violations_eq_nil_iff.mp hv).1 hm

end Valid

end Lines

/-- The id of the node that a line declares, if it declares one. -/
def declaredId? (u : List Char) : Option String :=
  match readStatement u with
  | .ok (.node decl) => some decl.id
  | _ => none

theorem declaredIds_toSource [Scalar α] {d : Diagram α} (hv : d.violations = []) (h : FitIds d)
    (hl : OneLineLabels d) (hrange : ∀ x : α, Scan.inRange (Scalar.nearest x) = true) :
    (texts (toSource d).toList).filterMap declaredId? =
      (texts (titleRest d.title)).filterMap declaredId? ++ statedIds d := by
  rw [texts_toSource hv h hl, List.filterMap_append, List.filterMap_map, statedIds]
  congr 1
  apply List.filterMap_congr
  intro entry hm
  rw [Function.comp_apply, declaredId?, Entry.readStatement_text hrange (h.named hv hm)
    (hl.whole (d.violations_eq_nil_iff.mp hv).1 hm)]
  cases entry <;> rfl

/-- A sum of which only one item counts. -/
theorem sum_map_single {β : Type} {items : List β} (hn : items.Nodup) {item : β}
    (hm : item ∈ items) {f : β → Nat} (hf : ∀ other ∈ items, other ≠ item → f other = 0) :
    (items.map f).sum = f item := by
  classical
  rw [List.sum_map_eq_nsmul_single item f fun other hne ho => hf other ho hne,
    List.count_eq_one_of_mem hn hm, one_nsmul]

/-- How often the container that has the node lists it. -/
def timesListed (d : Diagram α) (node : Node α) : Nat :=
  (d.containerList.find? (·.children.contains node.id)).elim 0 (·.children.count node.id)

section Counts

variable {d : Diagram α} {node : Node α}

theorem mem_nodeIds_of_mem_statedIds (hn : d.nodeIds.Nodup) {id : String} (h : id ∈ statedIds d) :
    id ∈ d.nodeIds := by
  rw [statedIds_eq, List.mem_append] at h
  rcases h with h | h
  · obtain ⟨node, hm, rfl⟩ := List.mem_map.mp h
    exact List.mem_map_of_mem (List.mem_of_mem_filter hm)
  · obtain ⟨item, hitem, h⟩ := List.mem_flatMap.mp h
    obtain ⟨i, -, hmembers⟩ := filled_get hitem
    obtain ⟨node, hm, rfl⟩ := List.mem_map.mp h
    rw [hmembers, mem_members_iff hn] at hm
    exact List.mem_map_of_mem hm.1

/-- A container that has the node lists it as often as the first container that lists it. -/
theorem timesListed_eq {i : Nat} {container : Container α}
    (hi : d.containerList[i]? = some container) (ho : ownerIndex? d node = some i) :
    timesListed d node = container.children.count node.id := by
  rw [timesListed, List.find?_eq_bind_findIdx?_getElem?]
  rcases Option.or_eq_some_iff.mp ho with hl | ⟨hl, -⟩
  · rw [hl, Option.bind_some, hi, Option.elim_some]
  · have hnot : node.id ∉ container.children := by
      simpa using List.findIdx?_eq_none_iff.mp hl container (List.mem_of_getElem? hi)
    rw [hl, Option.bind_none, Option.elim_none, List.count_eq_zero_of_not_mem hnot]

theorem timesListed_eq_zero (ho : ownerIndex? d node = none) : timesListed d node = 0 := by
  rw [timesListed, List.find?_eq_bind_findIdx?_getElem?, (Option.or_eq_none_iff.mp ho).1]
  rfl

variable (hn : d.nodeIds.Nodup) (hm : node ∈ d.nodes)
include hn hm

theorem count_id_filter (p : Node α → Bool) :
    ((d.nodes.filter p).map (·.id)).count node.id = if p node then 1 else 0 := by
  have hnodup : ((d.nodes.filter p).map (·.id)).Nodup := hn.sublist (List.filter_sublist.map _)
  split_ifs with hp
  · exact List.count_eq_one_of_mem hnodup (List.mem_map_of_mem (List.mem_filter.mpr ⟨hm, hp⟩))
  · apply List.count_eq_zero_of_not_mem
    intro hid
    obtain ⟨other, ho, he⟩ := List.mem_map.mp hid
    obtain ⟨hother, hpother⟩ := List.mem_filter.mp ho
    rw [List.inj_on_of_nodup_map hn hother hm he] at hpother
    exact hp hpother

/-- Listed nodes are written as often as they are listed. -/
theorem count_id_listed {i : Nat} (ho : ownerIndex? d node = some i) (container : Container α) :
    ((listed d i container).map (·.id)).count node.id = container.children.count node.id := by
  rw [listed]
  induction container.children with
  | nil => rfl
  | cons child children ih =>
    by_cases hc : child = node.id
    · subst hc
      have hfound : d.node? node.id = some node := (node?_eq_some_iff hn).mpr ⟨hm, rfl⟩
      have hbelongs : (ownerIndex? d node == some i) = true := by simp [ho]
      rw [List.filterMap_cons_some hfound, List.filter_cons, if_pos hbelongs, List.map_cons,
        List.count_cons_self, List.count_cons_self, ih]
    · rw [List.count_cons_of_ne hc, ← ih]
      cases hfound : d.node? child with
      | none => rw [List.filterMap_cons_none hfound]
      | some other =>
        have hid : other.id = child := ((node?_eq_some_iff hn).mp hfound).2
        rw [List.filterMap_cons_some hfound, List.filter_cons]
        split_ifs
        · rw [List.map_cons, List.count_cons_of_ne (by rwa [hid])]
        · rfl

theorem count_id_members {i : Nat} {container : Container α} :
    ((members d i container).map (·.id)).count node.id =
      if ownerIndex? d node = some i then max 1 (container.children.count node.id) else 0 := by
  split_ifs with ho
  · rw [members_eq hn, List.map_append, List.count_append, count_id_listed hn hm ho,
      count_id_filter hn hm, any_listed hn hm ho]
    by_cases hc : node.id ∈ container.children
    · simp [hc]
    · simp [hc, ho, List.count_eq_zero_of_not_mem hc]
  · apply List.count_eq_zero_of_not_mem
    intro hid
    obtain ⟨other, hother, he⟩ := List.mem_map.mp hid
    obtain ⟨hin, howner⟩ := (mem_members_iff hn).mp hother
    rw [List.inj_on_of_nodup_map hn hin hm he] at howner
    exact ho howner

/-- A node is written in one place only, there once at least, and as often as it is listed there. -/
theorem count_statedIds : (statedIds d).count node.id = max 1 (timesListed d node) := by
  have hfilled : ((filled d).flatMap (·.2.map (·.id))).count node.id =
      (d.containerList.zipIdx.map fun item =>
        if ownerIndex? d node = some item.2 then max 1 (item.1.children.count node.id)
          else 0).sum := by
    rw [List.count_flatMap, filled, List.map_map]
    congr 1
    apply List.map_congr_left
    intro item _
    exact count_id_members hn hm
  rw [statedIds_eq, List.count_append, outside, count_id_filter hn hm, hfilled]
  cases ho : ownerIndex? d node with
  | none => simp [timesListed_eq_zero ho]
  | some i =>
    obtain ⟨container, hi⟩ : ∃ container, d.containerList[i]? = some container :=
      ⟨_, List.getElem?_eq_getElem (ownerIndex?_lt ho)⟩
    have hplace : (container, i) ∈ d.containerList.zipIdx := List.mk_mem_zipIdx_iff_getElem?.mpr hi
    have honce : d.containerList.zipIdx.Nodup := by
      refine List.Nodup.of_map Prod.snd ?_
      rw [List.zipIdx_map_snd]
      exact List.nodup_range'
    rw [sum_map_single honce hplace, timesListed_eq hi ho]
    · simp
    · intro item hitem hne
      refine if_neg fun he => hne ?_
      obtain rfl := Option.some.inj he
      exact Prod.ext (Option.some.inj ((List.mk_mem_zipIdx_iff_getElem?.mp hitem).symm.trans hi))
        rfl

end Counts

/-- The source of a valid diagram has a line for each of its nodes, and no more of them than one
unless the container that has the node lists it more than once. Where ids and labels fit their
lines, these lines are the node statements of the source. -/
theorem nodes_toSource {d : Diagram Float} (h : d.validate = .ok ()) :
    (parts d).flatten = titleLines d ++ (entries d).map Entry.line ∧
    (∀ id ∈ statedIds d, id ∈ d.nodeIds) ∧
    (∀ node ∈ d.nodes, (statedIds d).count node.id = max 1 (timesListed d node)) ∧
    (FitIds d → OneLineLabels d → '\n' ∉ d.title.toList →
      (texts (toSource d).toList).filterMap declaredId? = statedIds d) := by
  have hv := d.validate_eq_ok_iff.mp h
  have hn := (d.violations_eq_nil_iff.mp hv).1
  refine ⟨flatten_parts d, fun id hid => mem_nodeIds_of_mem_statedIds hn hid,
    fun node hm => count_statedIds hn hm, fun hids hl ht => ?_⟩
  rw [declaredIds_toSource hv hids hl floatNearest_inRange, titleRest_of_not_mem ht]
  rfl

/-- A node that two containers list, one that only names its container, and one in none. -/
def cellar (children : List String) : Diagram Float :=
  { nodes :=
      [{ id := "a", label := "", icon := .server, x := 0, y := 0, width := 1, height := 1 },
       { id := "b", label := "", icon := .cache, x := 0, y := 0, width := 1, height := 1,
         owner := some "d" },
       { id := "c", label := "", icon := .user, x := 0, y := 0, width := 1, height := 1 }]
    containers := some
      [{ id := "c", label := "", kind := .vpc, x := 0, y := 0, width := 1, height := 1, children },
       { id := "d", label := "", kind := .vpc, x := 0, y := 0, width := 1, height := 1
         children := ["a"] }] }

theorem nodes_toSource_cellar : (cellar ["a"]).validate = .ok () ∧
    (parts (cellar ["a"])).flatten = titleLines (cellar ["a"]) ++
      (entries (cellar ["a"])).map Entry.line ∧
    (∀ id ∈ statedIds (cellar ["a"]), id ∈ (cellar ["a"]).nodeIds) ∧
    (∀ node ∈ (cellar ["a"]).nodes,
      (statedIds (cellar ["a"])).count node.id = max 1 (timesListed (cellar ["a"]) node)) ∧
    (FitIds (cellar ["a"]) → OneLineLabels (cellar ["a"]) → '\n' ∉ (cellar ["a"]).title.toList →
      (texts (toSource (cellar ["a"])).toList).filterMap declaredId? =
        statedIds (cellar ["a"])) := by
  have hok : (cellar ["a"]).validate = .ok () := by decide
  exact ⟨hok, nodes_toSource hok⟩

/-- A node that its container lists twice is written twice, which cannot be read again. -/
theorem node_stated_twice : (cellar ["a", "a"]).validate = .ok () ∧
    (cellar ["a", "a"]).nodeIds = ["a", "b", "c"] ∧
    (texts (toSource (cellar ["a", "a"])).toList).filterMap declaredId? = ["c", "a", "a", "b"] ∧
    (compile "" (toSource (cellar ["a", "a"])) : Except Failure (Diagram Float)).isOk = false := by
  refine ⟨by decide, by decide, by decide +kernel, by decide +kernel⟩

end ArchDiagram.Source
