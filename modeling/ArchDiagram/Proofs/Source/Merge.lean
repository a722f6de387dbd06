import Mathlib.Data.List.Nodup
import Mathlib.Tactic.SplitIfs
import ArchDiagram.Proofs.Diagram.Edit
import ArchDiagram.Proofs.Source.WellFormed
import ArchDiagram.Source.Merge

namespace ArchDiagram.Source

variable {α : Type}

/-- The error names an id that both diagrams have. -/
inductive Taken (d compiled : Diagram α) : EditError → Prop
  | node {id : String} : id ∈ compiled.nodeIds → id ∈ d.nodeIds →
      Taken d compiled (.duplicateNode id)
  | container {id : String} : id ∈ compiled.containerIds → id ∈ d.containerIds →
      Taken d compiled (.duplicateContainer id)

/-- No id of the one diagram is an id of the other. -/
structure Apart (d compiled : Diagram α) : Prop where
  nodes : d.nodeIds.Disjoint compiled.nodeIds
  containers : d.containerIds.Disjoint compiled.containerIds

/-- Links numbered on from a count. -/
def renumbered (count : Nat) (links : List Link) : List Link :=
  (links.zipIdx (count + 1)).map fun item => { item.1 with id := "link-" ++ toString item.2 }

def merged (d compiled : Diagram α) : Diagram α :=
  { d with
    nodes := d.nodes ++ compiled.nodes
    links := d.links ++ renumbered d.links.length compiled.links
    containers := match compiled.containers with
      | none => d.containers
      | some added => some (d.containerList ++ added) }

section Ids

variable {d compiled : Diagram α}

theorem taken_of_takenId? {error : EditError} (h : takenId? d compiled = some error) :
    Taken d compiled error := by
  rw [takenId?] at h
  rcases Option.or_eq_some_iff.mp h with hn | ⟨-, hc⟩
  · obtain ⟨node, hf, rfl⟩ := Option.map_eq_some_iff.mp hn
    have hid : node.id ∈ d.nodeIds := by simpa using List.find?_some hf
    exact .node (List.mem_map_of_mem (List.mem_of_find?_eq_some hf)) hid
  · obtain ⟨container, hf, rfl⟩ := Option.map_eq_some_iff.mp hc
    have hid : container.id ∈ d.containerIds := by simpa using List.find?_some hf
    exact .container (List.mem_map_of_mem (List.mem_of_find?_eq_some hf)) hid

theorem takenId?_eq_none_iff : takenId? d compiled = none ↔ Apart d compiled := by
  simp only [takenId?, Option.or_eq_none_iff, Option.map_eq_none_iff, List.find?_eq_none,
    Diagram.isSome_node?, Diagram.isSome_container?, decide_eq_true_eq]
  constructor
  · intro h
    refine ⟨fun id hd hc => ?_, fun id hd hc => ?_⟩
    · obtain ⟨node, hn, rfl⟩ := List.mem_map.mp hc
      exact h.1 node hn hd
    · obtain ⟨container, hn, rfl⟩ := List.mem_map.mp hc
      exact h.2 container hn hd
  · intro h
    exact ⟨fun node hn hd => h.nodes hd (List.mem_map_of_mem hn),
      fun container hc hd => h.containers hd (List.mem_map_of_mem hc)⟩

theorem length_renumbered (count : Nat) (links : List Link) :
    (renumbered count links).length = links.length := by
  simp [renumbered]

theorem containerList_merged (d compiled : Diagram α) :
    (merged d compiled).containerList = d.containerList ++ compiled.containerList := by
  cases hc : compiled.containers <;> simp [merged, Diagram.containerList, hc]

end Ids

namespace Editing

variable {β : Type} {d d' : Diagram α}

theorem bind_ok {γ δ : Type} {first : Editing α γ} {next : γ → Editing α δ} {x : γ}
    (h : first d = .ok x d') :
    (first >>= next) d = next x d' := by
  change EStateM.bind first next d = _
  rw [EStateM.bind, h]

theorem bind_error {γ δ : Type} {first : Editing α γ} {next : γ → Editing α δ} {error : MergeError}
    (h : first d = .error error d') : (first >>= next) d = .error error d' := by
  change EStateM.bind first next d = _
  rw [EStateM.bind, h]

theorem change_eq (edit : Diagram α → Except EditError (Diagram α)) (d : Diagram α) :
    change edit d = match edit d with
      | .ok d' => .ok () d'
      | .error error => .error (.taken error) d := by
  rw [change, bind_ok (show (get : Editing α (Diagram α)) d = .ok d d from rfl)]
  cases edit d <;> rfl

theorem change_eq_ok_iff {edit : Diagram α → Except EditError (Diagram α)} :
    change edit d = .ok () d' ↔ edit d = .ok d' := by
  rw [change_eq]
  cases edit d <;> simp

/-- A change that is refused is not made. -/
theorem eq_of_change_error {edit : Diagram α → Except EditError (Diagram α)} {error : MergeError}
    (h : change edit d = .error error d') : d' = d := by
  rw [change_eq] at h
  cases he : edit d with
  | ok d' => simp [he] at h
  | error refused =>
    rw [he] at h
    cases h
    rfl

theorem refuse_eq (faulty : Diagram α → Bool) (error : EditError) (d : Diagram α) :
    refuse faulty error d = if faulty d then .error (.taken error) d else .ok () d := by
  rw [refuse, bind_ok (show (get : Editing α (Diagram α)) d = .ok d d from rfl)]
  split_ifs <;> rfl

/-- A loop goes well if each of its steps does, after the steps before it. -/
theorem forM_ok (items : List β) (step : β → Editing α Unit) (after : List β → Diagram α)
    (h : ∀ before item later, items = before ++ item :: later →
      step item (after before) = .ok () (after (before ++ [item]))) :
    (forM items step) (after []) = .ok () (after items) := by
  induction items generalizing after with
  | nil => rfl
  | cons item items ih =>
    have hfirst : step item (after []) = .ok () (after [item]) := h [] item items rfl
    rw [List.forM_cons, bind_ok hfirst]
    refine ih (fun before => after (item :: before)) fun before other later he => ?_
    exact h (item :: before) other later (by rw [he]; rfl)

/-- A loop of looks stops at the first fault and changes nothing. -/
theorem forM_refuse (items : List β) (faulty : β → Diagram α → Bool) (error : β → EditError)
    (d : Diagram α) :
    (forM items fun item => refuse (faulty item) (error item)) d =
      match (items.find? fun item => faulty item d).map error with
      | none => .ok () d
      | some taken => .error (.taken taken) d := by
  induction items with
  | nil => rfl
  | cons item items ih =>
    rw [List.forM_cons, List.find?_cons]
    cases hf : faulty item d with
    | true => exact bind_error (by rw [refuse_eq, if_pos hf])
    | false =>
      rw [bind_ok (x := ()) (by rw [refuse_eq, hf]; rfl)]
      exact ih

theorem refuseTaken_eq (d compiled : Diagram α) :
    refuseTaken compiled d = match takenId? d compiled with
      | none => .ok () d
      | some taken => .error (.taken taken) d := by
  have hnodes := forM_refuse compiled.nodes (fun node d => (d.node? node.id).isSome)
    (fun node => .duplicateNode node.id) d
  have hcontainers :=
    forM_refuse compiled.containerList (fun container d => (d.container? container.id).isSome)
    (fun container => .duplicateContainer container.id) d
  rw [refuseTaken, takenId?]
  cases hn : (compiled.nodes.find? fun node => (d.node? node.id).isSome).map
      fun node => EditError.duplicateNode node.id with
  | none =>
    rw [hn] at hnodes
    rw [bind_ok hnodes, hcontainers, Option.none_or]
  | some taken =>
    rw [hn] at hnodes
    rw [bind_error hnodes, Option.some_or]

/-- Every node is taken after those before it. -/
theorem addNode_step {compiled : Diagram α} (hn : compiled.nodeIds.Nodup) (ha : Apart d compiled)
    {before later : List (Node α)} {node : Node α} (he : compiled.nodes = before ++ node :: later) :
    ({ d with nodes := d.nodes ++ before } : Diagram α).addNode node =
      .ok { d with nodes := d.nodes ++ (before ++ [node]) } := by
  have hids : compiled.nodeIds = before.map (·.id) ++ node.id :: later.map (·.id) := by
    simp [Diagram.nodeIds, he]
  have hearlier : node.id ∉ before.map (·.id) := by
    intro hm
    rw [hids] at hn
    exact (List.nodup_append.mp hn).2.2 _ hm _ List.mem_cons_self rfl
  have hold : node.id ∉ d.nodeIds := fun hm => ha.nodes hm (by simp [hids])
  refine Diagram.addNode_eq_ok_iff.mpr ⟨?_, by rw [List.append_assoc]⟩
  rw [Diagram.nodeIds, List.map_append, List.mem_append, not_or]
  exact ⟨hold, hearlier⟩

/-- Every link is taken once all nodes are there. -/
theorem addLink_step {compiled : Diagram α} {links : List Link} {link : Link}
    (hends : link.source ∈ compiled.nodeIds ∧ link.target ∈ compiled.nodeIds) :
    ({ d with nodes := d.nodes ++ compiled.nodes, links } : Diagram α).addLink link =
      .ok { d with nodes := d.nodes ++ compiled.nodes, links := links ++ [link] } := by
  have hids : Diagram.nodeIds { d with nodes := d.nodes ++ compiled.nodes, links } =
      d.nodeIds ++ compiled.nodeIds := by
    simp [Diagram.nodeIds]
  refine Diagram.addLink_eq_ok_iff.mpr ⟨?_, rfl⟩
  rw [hids]
  exact ⟨List.mem_append_right _ hends.1, List.mem_append_right _ hends.2⟩

theorem forM_addNode {compiled : Diagram α} (hn : compiled.nodeIds.Nodup) (ha : Apart d compiled) :
    (forM compiled.nodes fun node => change (·.addNode node)) d =
      .ok () { d with nodes := d.nodes ++ compiled.nodes } := by
  have hloop := forM_ok compiled.nodes (fun node => change (·.addNode node))
    (fun before => { d with nodes := d.nodes ++ before }) fun _ _ _ he =>
      change_eq_ok_iff.mpr (addNode_step hn ha he)
  simpa using hloop

theorem forM_addLink {compiled : Diagram α} {count : Nat} {links : List Link}
    (hends : ∀ link ∈ links, link.source ∈ compiled.nodeIds ∧ link.target ∈ compiled.nodeIds) :
    (forM (links.zipIdx (count + 1)) fun item =>
        change (·.addLink { item.1 with id := "link-" ++ toString item.2 }))
        { d with nodes := d.nodes ++ compiled.nodes } =
      .ok () { d with
        nodes := d.nodes ++ compiled.nodes
        links := d.links ++ renumbered count links } := by
  have hloop := forM_ok (links.zipIdx (count + 1))
    (fun item => change (·.addLink { item.1 with id := "link-" ++ toString item.2 }))
    (fun before => { d with
      nodes := d.nodes ++ compiled.nodes
      links := d.links ++ before.map fun item => { item.1 with id := "link-" ++ toString item.2 } })
        ?_
  · simpa [renumbered] using hloop
  · intro before item later he
    have hm : item.1 ∈ links := List.fst_mem_of_mem_zipIdx (by rw [he]; simp)
    rw [List.map_append, ← List.append_assoc]
    exact change_eq_ok_iff.mpr (addLink_step (hends item.1 hm))

/-- Containers are always taken. Their list is there as soon as there is one of them. -/
theorem forM_addContainer (containers : List (Container α)) (d : Diagram α) :
    (forM containers fun container => (modify (·.addContainer container) : Editing α Unit)) d =
      .ok () { d with
        containers := if containers.isEmpty then d.containers
          else some (d.containerList ++ containers) } := by
  refine forM_ok containers (fun container => modify (·.addContainer container))
    (fun before => { d with
      containers := if before.isEmpty then d.containers else some (d.containerList ++ before) }) ?_
  intro before container later _
  have hlist : Diagram.containerList { d with
      containers := if before.isEmpty then d.containers else some (d.containerList ++ before) } =
      d.containerList ++ before := by
    cases before <;> simp [Diagram.containerList]
  change EStateM.Result.ok () (Diagram.addContainer _ container) = _
  rw [Diagram.addContainer, hlist]
  simp

/-- Nothing is refused any more once all ids are free. -/
theorem insert_eq {compiled : Diagram α} (hw : compiled.WellFormed) (ha : Apart d compiled) :
    insert compiled d = .ok () (merged d compiled) := by
  rw [insert, bind_ok (show (get : Editing α (Diagram α)) d = .ok d d from rfl),
    bind_ok (forM_addNode hw.nodeIds ha), bind_ok (forM_addLink hw.linkEnds), forM_addContainer]
  congr 1
  rw [merged]
  congr 1
  cases hc : compiled.containers with
  | none => simp [Diagram.containerList, hc]
  | some added =>
    have hne : added ≠ [] := fun he => hw.listed (by rw [hc, he])
    simp [Diagram.containerList, hc, hne]

end Editing

variable [Scalar α] {d compiled : Diagram α} {title source : String}

theorem wellFormed_of_compile (h : compile title source = .ok compiled) : compiled.WellFormed :=
  (Progress.sound_empty.run _).finish h

/-- A merge fails before it changes anything, or makes all its changes. -/
theorem mergeInto_eq (title source : String) (d : Diagram α) :
    mergeInto title source d = match (compile title source : Except Failure (Diagram α)) with
      | .error failure => .error (.source failure) d
      | .ok compiled => match takenId? d compiled with
        | some taken => .error (.taken taken) d
        | none => .ok () (merged d compiled) := by
  rw [mergeInto]
  cases hc : (compile title source : Except Failure (Diagram α)) with
  | error failure => rfl
  | ok compiled =>
    have hlook := Editing.refuseTaken_eq d compiled
    simp only
    cases ht : takenId? d compiled with
    | some taken =>
      rw [ht] at hlook
      exact Editing.bind_error hlook
    | none =>
      rw [ht] at hlook
      rw [Editing.bind_ok hlook]
      exact Editing.insert_eq (wellFormed_of_compile hc) (takenId?_eq_none_iff.mp ht)

theorem compile_title (title other source : String) :
    (compile other source : Except Failure (Diagram α)) =
      (compile title source).map fun d => { d with title := other } := by
  rw [compile, compile, Progress.finish, Progress.finish]
  split_ifs <;> rfl

/-- The merge in steps gives what the merge at once gives, and nothing of it if that fails. -/
theorem mergeInto_eq_merge (title source : String) (d : Diagram α) :
    mergeInto title source d = match merge d source with
      | .ok after => .ok () after
      | .error error => .error error d := by
  rw [mergeInto_eq, merge, compile_title defaultTitle title]
  cases (compile defaultTitle source : Except Failure (Diagram α)) with
  | error failure => rfl
  | ok compiled =>
    have ht : takenId? d { compiled with title := title } = takenId? d compiled := rfl
    simp only [Except.map, ht]
    cases takenId? d compiled <;> rfl

theorem mergeInto_eq_ok_iff {after : Diagram α} :
    mergeInto title source d = .ok () after ↔
      ∃ compiled, compile title source = .ok compiled ∧ Apart d compiled ∧
      after = merged d compiled := by
  rw [mergeInto_eq]
  cases hc : (compile title source : Except Failure (Diagram α)) with
  | error failure => simp
  | ok compiled =>
    simp only [Except.ok.injEq, exists_eq_left', ← takenId?_eq_none_iff]
    cases takenId? d compiled with
    | none => simp [eq_comm]
    | some taken => simp

/-- A merge that fails leaves the diagram as it was: the source has errors or gives an id that is
taken. One that succeeds adds all that the source declares, in order, and keeps the rest; none of
its single changes is refused. -/
theorem mergeInto_atomic (title source : String) (d : Diagram α) :
    match mergeInto title source d with
    | .error error after => after = d ∧
      ((∃ failure, (compile title source : Except Failure (Diagram α)) = .error failure ∧
        error = .source failure) ∨
      ∃ compiled taken, compile title source = .ok compiled ∧ Taken d compiled taken ∧
      error = .taken taken)
    | .ok _ after => ∃ compiled, compile title source = .ok compiled ∧ Apart d compiled ∧
      after.title = d.title ∧ after.nodes = d.nodes ++ compiled.nodes ∧
      after.links = d.links ++ renumbered d.links.length compiled.links ∧
      after.containerList = d.containerList ++ compiled.containerList ∧
      (after.containers = none ↔ d.containers = none ∧ compiled.containers = none) ∧
      (∀ before node later, compiled.nodes = before ++ node :: later →
        ({ d with nodes := d.nodes ++ before } : Diagram α).addNode node =
          .ok { d with nodes := d.nodes ++ (before ++ [node]) }) ∧
      ∀ before link later, renumbered d.links.length compiled.links = before ++ link :: later →
        ({ d with nodes := d.nodes ++ compiled.nodes
                  links := d.links ++ before } : Diagram α).addLink link =
          .ok { d with nodes := d.nodes ++ compiled.nodes
                       links := d.links ++ before ++ [link] } := by
  rw [mergeInto_eq]
  cases hc : (compile title source : Except Failure (Diagram α)) with
  | error failure => exact ⟨rfl, .inl ⟨failure, rfl, rfl⟩⟩
  | ok compiled =>
    simp only
    cases ht : takenId? d compiled with
    | some taken => exact ⟨rfl, .inr ⟨compiled, taken, rfl, taken_of_takenId? ht, rfl⟩⟩
    | none =>
      have hw := wellFormed_of_compile hc
      have ha := takenId?_eq_none_iff.mp ht
      refine ⟨compiled, rfl, ha, rfl, rfl, rfl, containerList_merged d compiled, ?_, ?_, ?_⟩
      · rw [merged]
        cases compiled.containers <;> simp
      · intro before node later he
        exact Editing.addNode_step hw.nodeIds ha he
      · intro before link later he
        have hm : link ∈ renumbered d.links.length compiled.links := by simp [he]
        obtain ⟨item, hi, rfl⟩ := List.mem_map.mp hm
        exact Editing.addLink_step (hw.linkEnds item.1 (List.fst_mem_of_mem_zipIdx hi))

end ArchDiagram.Source
