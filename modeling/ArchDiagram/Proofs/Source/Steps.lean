import ArchDiagram.Proofs.Source.Concatenation

namespace ArchDiagram.Source

variable {α : Type} [Scalar α]

/-- Lines with the texts are taken one after the other. -/
inductive Steps : List (List Char) → Stage α → Stage α → Prop
  | nil {s : Stage α} : Steps [] s s
  | cons {u : List Char} {us : List (List Char)} {s t r : Stage α} :
      Takes u s t → Steps us t r → Steps (u :: us) s r

def Stage.initial : Stage α := ⟨[], [], [], []⟩

namespace Steps

variable {us vs : List (List Char)} {s r : Stage α}

theorem of_append (h : Steps (us ++ vs) s r) : ∃ t, Steps us s t ∧ Steps vs t r := by
  induction us generalizing s with
  | nil => exact ⟨s, nil, h⟩
  | cons u us ih =>
    cases h with
    | cons hu h =>
      obtain ⟨t, hus, hvs⟩ := ih h
      exact ⟨t, cons hu hus, hvs⟩

/-- A line that is taken is a statement. -/
theorem readable (h : Steps us s r) {u : List Char} (hm : u ∈ us) :
    ∃ statement, readStatement u = .ok statement := by
  induction h with
  | nil => simp at hm
  | cons hu _ ih =>
    rcases List.mem_cons.mp hm with rfl | hm
    · cases hu with
      | node hr => exact ⟨_, hr⟩
      | link hr => exact ⟨_, hr⟩
      | container hr => exact ⟨_, hr⟩
      | close hr => exact ⟨_, hr⟩
    · exact ih hm

end Steps

/-- Lines that leave no error are all taken. -/
theorem Progress.steps_run {p : Progress α} {lines : List SourceLine}
    (h : (lines.foldl step p).errors = []) :
    Steps (lines.map (·.text)) p.stage (lines.foldl step p).stage := by
  induction lines generalizing p with
  | nil => exact .nil
  | cons line lines ih =>
    rw [List.foldl_cons] at h ⊢
    exact .cons (step_takes (errors_eq_nil_of_run h)) (ih h)

theorem steps_of_compile {title source : String} {d : Diagram α}
    (h : compile title source = .ok d) :
    Steps (texts source.toList) .initial (declared d source) := by
  obtain ⟨herrors, hstage⟩ := stage_of_compile h
  have hsteps := Progress.steps_run herrors
  rwa [hstage, map_text_sourceLines] at hsteps

section Declarations

/-- A line declares something unless it closes a block. -/
def declares (u : List Char) : Bool :=
  match readStatement u with
  | .ok .close => false
  | _ => true

/-- How many things are declared at a stage. -/
def Stage.count (s : Stage α) : Nat := s.nodes.length + s.containers.length + s.links.length

omit [Scalar α] in
theorem length_listAll (containers : List (Container α)) (owner : Option String)
    (ids : List String) :
    (listAll containers owner ids).length = containers.length := by
  cases owner with
  | none => rfl
  | some id => exact List.length_map _

theorem Takes.count {u : List Char} {s t : Stage α} (h : Takes u s t) :
    t.count = s.count + (declares u).toNat := by
  cases h with
  | node hr =>
    simp only [Stage.count, declares, hr, List.length_append, List.length_singleton, length_listAll,
      Bool.toNat_true]
    omega
  | link hr =>
    simp only [Stage.count, declares, hr, List.length_append, List.length_singleton,
      Bool.toNat_true]
    omega
  | container hr =>
    simp only [Stage.count, declares, hr, List.length_append, List.length_singleton,
      Bool.toNat_true]
    omega
  | close hr => simp only [Stage.count, declares, hr, Bool.toNat_false, Nat.add_zero]

theorem Steps.count {us : List (List Char)} {s t : Stage α} (h : Steps us s t) :
    t.count = s.count + us.countP declares := by
  induction h with
  | nil => simp
  | @cons u us _ _ _ hu _ ih =>
    rw [ih, hu.count, List.countP_cons]
    cases declares u <;> simp
    omega

/-- Lines that declare nothing close blocks, and at first there is none. -/
theorem Steps.eq_nil {us : List (List Char)} {s t : Stage α} (h : Steps us s t) (hb : s.blocks = [])
    (hnone : us.countP declares = 0) : us = [] := by
  rw [List.countP_eq_zero] at hnone
  cases h with
  | nil => rfl
  | @cons u us _ _ _ hu _ =>
    have hfirst := hnone u List.mem_cons_self
    cases hu with
    | node hr => simp [declares, hr] at hfirst
    | link hr => simp [declares, hr] at hfirst
    | container hr => simp [declares, hr] at hfirst
    | close _ hopen => simp [hb] at hopen

end Declarations

end ArchDiagram.Source
