import ArchDiagram.Proofs.Source.Faults
import ArchDiagram.Proofs.Source.Leads
import ArchDiagram.Proofs.Source.LinkNumbers

namespace ArchDiagram.Source

variable {α : Type}

/-- The stage behind the declarations of another one, which has no open block. -/
def Stage.behind (s base : Stage α) : Stage α :=
  ⟨base.nodes ++ s.nodes, base.containers ++ s.containers, s.blocks, base.links ++ s.links⟩

/-- No id of the stage is declared by the base. -/
structure Stage.Free (s base : Stage α) : Prop where
  nodes : ∀ node ∈ s.nodes, node.id ∉ base.nodes.map (·.id)
  containers : ∀ container ∈ s.containers, container.id ∉ base.containers.map (·.id)

/-- The container of the innermost block is not one of the base. -/
theorem Stage.Free.current {p : Progress α} {base : Stage α} (hs : p.Sound) (h : p.stage.Free base)
    {id : String} (hc : p.stage.current = some id) : id ∉ base.containers.map (·.id) := by
  rw [p.current_stage] at hc
  obtain ⟨container, hm, rfl⟩ := List.mem_map.mp (hs.current hc)
  exact h.containers container hm

variable [Scalar α]

/-- A line is taken in the same way behind the base. -/
theorem Takes.behind {u : List Char} {s t base : Stage α} (h : Takes u s t) (hfree : t.Free base)
    (hcurrent : ∀ id, s.current = some id → id ∉ base.containers.map (·.id)) :
    Takes u (s.behind base) (t.behind base) := by
  cases h with
  | @node decl icon hr hi hnew =>
    have hbase : decl.id ∉ base.nodes.map (·.id) :=
      hfree.nodes (Progress.nodeOf decl icon s.current) (by simp)
    have hnew' : decl.id ∉ (s.behind base).nodes.map (·.id) := by
      rw [Stage.behind, List.map_append, List.mem_append, not_or]
      exact ⟨hbase, hnew⟩
    -- The node goes into the same container, which is not one of the base.
    have hlist : listAll (s.behind base).containers (s.behind base).current [decl.id] =
        base.containers ++ listAll s.containers s.current [decl.id] := by
      have hothers := listAll_of_not_mem hcurrent [decl.id]
      rw [Stage.behind, listAll_concat]
      exact congrArg (· ++ _) hothers
    have howner : (s.behind base).current = s.current := rfl
    have htakes := Takes.node (s := s.behind base) hr hi hnew'
    rw [hlist, howner] at htakes
    simpa [Stage.behind] using htakes
  | link hr =>
    have htakes := Takes.link (s := s.behind base) hr
    simpa [Stage.behind] using htakes
  | @container decl kind hr hk hnew =>
    have hbase : decl.id ∉ base.containers.map (·.id) :=
      hfree.containers (Progress.containerOf decl kind) (by simp)
    have hnew' : decl.id ∉ (s.behind base).containers.map (·.id) := by
      rw [Stage.behind, List.map_append, List.mem_append, not_or]
      exact ⟨hbase, hnew⟩
    have htakes := Takes.container (s := s.behind base) hr hk hnew'
    simpa [Stage.behind] using htakes
  | close hr hb => exact Takes.close hr hb

namespace Progress

variable {p : Progress α} {line : SourceLine} {lines : List SourceLine}

/-- A line that is no fault is taken. -/
theorem takes_of_ownFault?_eq_none (h : p.ownFault? line = none) :
    ∃ t, Takes line.text p.stage t := by
  rw [ownFault?] at h
  split at h
  · contradiction
  · next decl hr =>
    split_ifs at h with hi hd
    obtain ⟨icon, hi⟩ := Option.ne_none_iff_exists'.mp hi
    exact ⟨_, .node hr hi hd⟩
  · next decl hr =>
    split_ifs at h with hk hd
    obtain ⟨kind, hk⟩ := Option.ne_none_iff_exists'.mp hk
    exact ⟨_, .container hr hk hd⟩
  · next hr =>
    split_ifs at h with hb
    obtain ⟨block, outer, hb⟩ := List.exists_cons_of_ne_nil hb
    exact ⟨_, .close hr (by rw [stage, hb, List.map_cons])⟩
  · next decl hr => exact ⟨_, .link hr⟩

theorem step_takes (h : (p.step line).errors = []) :
    Takes line.text p.stage (p.step line).stage := by
  rw [step_errors, List.append_eq_nil_iff] at h
  have hfault : p.ownFault? line = none := by
    cases hf : p.ownFault? line with
    | none => rfl
    | some fault => simp [hf] at h
  obtain ⟨t, ht⟩ := takes_of_ownFault?_eq_none hfault
  have hat : (p.step line).At t := Leads.of_takes ht p [line] rfl (at_stage h.1)
  rwa [← hat.eq_stage]

/-- What is free at the end was free before, as ids stay declared. -/
theorem free_of_run {base : Stage α} (lines : List SourceLine)
    (h : (lines.foldl step p).stage.Free base) : p.stage.Free base := by
  constructor
  · intro node hm
    have hids := mem_ids_run_iff (fun p line => p.mem_nodeIds_step line node.id) lines p
    obtain ⟨last, hl, he⟩ := List.mem_map.mp (hids.mpr (.inl (List.mem_map_of_mem hm)))
    exact he ▸ h.nodes last hl
  · intro container hm
    have hids := mem_ids_run_iff (fun p line => p.mem_containerIds_step line container.id) lines p
    obtain ⟨last, hl, he⟩ := List.mem_map.mp (hids.mpr (.inl (List.mem_map_of_mem hm)))
    exact he ▸ h.containers last hl

/-- Lines that lead somewhere without an error lead there behind the base, too. -/
theorem leads_behind {base : Stage α} (hs : p.Sound) (herrors : (lines.foldl step p).errors = [])
    (hfree : (lines.foldl step p).stage.Free base) :
    Leads (lines.map (·.text)) (p.stage.behind base) ((lines.foldl step p).stage.behind base) := by
  induction lines generalizing p with
  | nil => exact Leads.nil
  | cons line lines ih =>
    rw [List.foldl_cons] at herrors hfree ⊢
    -- What the run declares is free, so what each front of it declares is, too.
    have hfirst : (p.step line).errors = [] := errors_eq_nil_of_run herrors
    have hnext : (p.step line).stage.Free base := free_of_run lines hfree
    have hnow : p.stage.Free base := free_of_run [line] hnext
    have hstep := (step_takes hfirst).behind hnext fun id hc => hnow.current hs hc
    exact (Leads.of_takes hstep).append (ih (hs.step line) herrors hfree)

end Progress

variable {title source : String} {d : Diagram α}

def declared (d : Diagram α) (source : String) : Stage α :=
  ⟨d.nodes, d.containerList, [], linkDecls source.toList⟩

theorem stage_of_compile (h : compile title source = .ok d) :
    ((sourceLines source.toList).foldl Progress.step ({} : Progress α)).errors = [] ∧
    ((sourceLines source.toList).foldl Progress.step ({} : Progress α)).stage =
      declared d source := by
  obtain ⟨⟨herrors, hblocks, -⟩, rfl⟩ := Progress.finish_eq_ok h
  refine ⟨herrors, ?_⟩
  rw [Progress.stage, declared, Progress.containerList_eq, hblocks, Progress.run_decls]
  rfl

theorem links_of_compile (h : compile title source = .ok d) :
    d.links = (Text.numbered (linkDecls source.toList)).map fun item => item.2.link item.1 := by
  obtain ⟨⟨-, -, hends⟩, rfl⟩ := Progress.finish_eq_ok h
  simp only [Progress.resolvedLinks_eq hends, Progress.run_decls]

theorem ends_of_compile (h : compile title source = .ok d) {decl : LinkDecl}
    (hm : decl ∈ linkDecls source.toList) : decl.source ∈ d.nodeIds ∧ decl.target ∈ d.nodeIds := by
  obtain ⟨⟨-, -, hends⟩, rfl⟩ := Progress.finish_eq_ok h
  rw [← Progress.run_decls (α := α)] at hm
  obtain ⟨link, hl, rfl⟩ := List.mem_map.mp hm
  exact (Progress.unknownEnd?_eq_none_iff _ link.decl).mp (hends link hl)

theorem leads_declared (h : compile title source = .ok d) {base : Stage α} (hb : base.blocks = [])
    (hfree : (declared d source).Free base) :
    Leads (texts source.toList) base ((declared d source).behind base) := by
  obtain ⟨herrors, hstage⟩ := stage_of_compile h
  have hstart : ({} : Progress α).stage.behind base = base := by
    simp [Progress.stage, Stage.behind, ← hb]
  have hleads := Progress.leads_behind Progress.sound_empty herrors (hstage ▸ hfree)
  rwa [hstart, hstage, map_text_sourceLines] at hleads

section Below

variable {above below : String} {c : Diagram α}

theorem containers_of_compile (h : compile title source = .ok d) :
    d.containers = if d.containerList.isEmpty then none else some d.containerList := by
  have hlisted := (wellFormed_of_compile h).listed
  cases hc : d.containers with
  | none => simp [Diagram.containerList, hc]
  | some containers =>
    have hne : containers ≠ [] := fun he => hlisted (by rw [hc, he])
    simp [Diagram.containerList, hc, hne]

/-- The containers are there as soon as one of the two sources has one. -/
theorem containers_merged (h : compile title above = .ok c) (h' : compile title below = .ok d) :
    (merged c d).containers =
      if (c.containerList ++ d.containerList).isEmpty then none
      else some (c.containerList ++ d.containerList) := by
  have hc := containers_of_compile h
  have hd := containers_of_compile h'
  rw [merged]
  cases hl : d.containerList with
  | nil =>
    rw [hl] at hd
    simpa [hd] using hc
  | cons container rest =>
    rw [hl] at hd
    simp [hd]

omit [Scalar α] in
theorem free_declared (ha : Apart c d) : (declared d below).Free (declared c above) := by
  constructor
  · intro node hm hc
    exact ha.nodes hc (List.mem_map_of_mem hm)
  · intro container hm hc
    exact ha.containers hc (List.mem_map_of_mem hm)

/-- The lines of both sources, read one after the other, lead to the declarations of both. -/
theorem leads_below (h : compile title above = .ok c) (h' : compile title below = .ok d)
    (ha : Apart c d) :
    Leads (texts (above ++ "\n" ++ below).toList) ⟨[], [], [], []⟩
      ((declared d below).behind (declared c above)) := by
  have hnone : (declared c above).Free ⟨[], [], [], []⟩ := by constructor <;> simp
  have habove : Leads (texts above.toList) ⟨[], [], [], []⟩ (declared c above) :=
    leads_declared h rfl hnone
  have hbelow : Leads (texts below.toList) (declared c above)
      ((declared d below).behind (declared c above)) :=
    leads_declared h' rfl (free_declared ha)
  have htext : (above ++ "\n" ++ below).toList = above.toList ++ '\n' :: below.toList := by simp
  rw [htext, texts_below]
  exact habove.append hbelow

/-- Each link joins nodes of its own source. -/
theorem ends_below (h : compile title above = .ok c) (h' : compile title below = .ok d) :
    ∀ decl ∈ linkDecls above.toList ++ linkDecls below.toList,
      decl.source ∈ (c.nodes ++ d.nodes).map (·.id) ∧
      decl.target ∈ (c.nodes ++ d.nodes).map (·.id) := by
  intro decl hm
  rw [List.map_append]
  rcases List.mem_append.mp hm with hm | hm
  · have hends := ends_of_compile h hm
    exact ⟨List.mem_append_left _ hends.1, List.mem_append_left _ hends.2⟩
  · have hends := ends_of_compile h' hm
    exact ⟨List.mem_append_right _ hends.1, List.mem_append_right _ hends.2⟩

/-- The offset of the merge gives the numbers that one pass over both sources gives. -/
theorem links_merged (h : compile title above = .ok c) (h' : compile title below = .ok d) :
    (merged c d).links = (Text.numbered (linkDecls above.toList ++ linkDecls below.toList)).map
      fun item => item.2.link item.1 := by
  have hcount : c.links.length = (linkDecls above.toList).length := by
    simp [links_of_compile h, Text.numbered]
  rw [numbered_append, ← links_of_compile h, ← links_of_compile h', ← hcount]
  rfl

theorem title_of_compile (h : compile title source = .ok d) : d.title = title := by
  obtain ⟨-, rfl⟩ := Progress.finish_eq_ok h
  rfl

/-- One source below the other compiles to what merging its diagram into the other's gives. -/
theorem compile_below (h : compile title above = .ok c) (h' : compile title below = .ok d)
    (ha : Apart c d) :
    compile title (above ++ "\n" ++ below) = .ok (merged c d) := by
  have hat := leads_below h h' ha {} _ (map_text_sourceLines _) ⟨rfl, rfl, rfl, rfl, rfl⟩
  have hmerged : merged c d =
      { title
        nodes := c.nodes ++ d.nodes
        links := (Text.numbered (linkDecls above.toList ++ linkDecls below.toList)).map
          fun item => item.2.link item.1
        containers := if (c.containerList ++ d.containerList).isEmpty then none
          else some (c.containerList ++ d.containerList) } := by
    rw [← links_merged h h', ← containers_merged h h', ← title_of_compile h]
    rfl
  rw [hmerged]
  exact hat.finish rfl (ends_below h h') title

/-- An empty diagram takes a source over, but for the title. -/
theorem mergeInto_empty (h : compile title source = .ok d) (name : String) :
    mergeInto title source { title := name } = .ok () { d with title := name } := by
  refine mergeInto_eq_ok_iff.mpr ⟨d, h, ⟨by simp [Diagram.nodeIds], ?_⟩, ?_⟩
  · simp [Diagram.containerIds, Diagram.containerList]
  · have hlinks : renumbered 0 d.links = d.links := by
      rw [links_of_compile h, renumbered_numbered]
      simp [Text.numbered]
    rw [merged]
    cases hc : d.containers <;> simp [hlinks, Diagram.containerList]

/-- Two sources that have no id in common compile, one below the other, to the nodes, links and
containers that merging them one after the other gives. -/
theorem compile_append_eq_merges (h : compile title above = .ok c)
    (h' : compile title below = .ok d) (ha : Apart c d) (name : String) :
    ∃ whole first second : Diagram α, compile title (above ++ "\n" ++ below) = .ok whole ∧
      mergeInto title above { title := name } = .ok () first ∧
      mergeInto title below first = .ok () second ∧
      whole.nodes = second.nodes ∧ whole.links = second.links ∧
      whole.containers = second.containers := by
  have hsecond : mergeInto title below { c with title := name } =
      .ok () (merged { c with title := name } d) :=
    mergeInto_eq_ok_iff.mpr ⟨d, h', ⟨ha.nodes, ha.containers⟩, rfl⟩
  exact ⟨merged c d, _, _, compile_below h h' ha, mergeInto_empty h name, hsecond, rfl, rfl, rfl⟩

/-- A source that ends within its last line. -/
def frontSource : String :=
  "web -> db: \"reads\"\nnode db: \"\" icon=database x=5 y=5\n" ++
  "container shop: \"Shop\" type=vpc x=0 y=0 width=9 height=9 \x7b\nnode web: \"\" icon=server x=1 y=1\n\x7d"

def backSource : String :=
  "// more\n\nnode log: \"\" icon=storage x=7 y=7\nlog <-> job\n" ++
  "container batch: \"\" type=group x=0 y=0 width=9 height=9 \x7b\nnode job: \"\" icon=function x=1 y=1\n\x7d\n"

theorem compile_append_eq_merges_shop : ∃ c d : Diagram Float,
    compile "Shop" frontSource = .ok c ∧ compile "Shop" backSource = .ok d ∧ Apart c d ∧
    ∃ whole first second : Diagram Float,
      compile "Shop" (frontSource ++ "\n" ++ backSource) = .ok whole ∧
      mergeInto "Shop" frontSource { title := "All" } = .ok () first ∧
      mergeInto "Shop" backSource first = .ok () second ∧
      whole.nodes = second.nodes ∧ whole.links = second.links ∧
      whole.containers = second.containers := by
  have hok : (match (compile "Shop" frontSource : Except Failure (Diagram Float)) with
    | .error _ => false
    | .ok c => match (compile "Shop" backSource : Except Failure (Diagram Float)) with
      | .error _ => false
      | .ok d => (takenId? c d).isNone) = true := by decide +kernel
  cases hc : (compile "Shop" frontSource : Except Failure (Diagram Float)) with
  | error failure =>
    rw [hc] at hok
    exact absurd hok Bool.false_ne_true
  | ok c =>
    cases hd : (compile "Shop" backSource : Except Failure (Diagram Float)) with
    | error failure =>
      rw [hc, hd] at hok
      exact absurd hok Bool.false_ne_true
    | ok d =>
      rw [hc, hd] at hok
      have ha : Apart c d := takenId?_eq_none_iff.mp (Option.isNone_iff_eq_none.mp hok)
      exact ⟨c, d, rfl, rfl, ha, compile_append_eq_merges hc hd ha "All"⟩

end Below

end ArchDiagram.Source
