import ArchDiagram.Proofs.Diagram.LinkColor

namespace ArchDiagram

namespace Incidence

variable {α : Type} {x id : String}

theorem linksAt_cons (first : String) (ids : List String) (rest : Incidence) :
    linksAt ((first, ids) :: rest) id = if id = first then ids else rest.linksAt id := by
  rw [linksAt, List.lookup_cons]
  split_ifs with hid
  · rw [hid, beq_self_eq_true]
    rfl
  · rw [beq_false_of_ne hid]
    rfl

theorem linksAt_note (incidence : Incidence) (node link : String) :
    (incidence.note node link).linksAt id =
      if id = node then incidence.linksAt id ++ [link] else incidence.linksAt id := by
  induction incidence with
  | nil =>
    rw [note, linksAt_cons]
    rfl
  | cons entry rest ih =>
    obtain ⟨first, ids⟩ := entry
    rw [note]
    by_cases hfirst : first = node
    · subst hfirst
      rw [if_pos rfl, linksAt_cons, linksAt_cons]
      split_ifs <;> rfl
    · rw [if_neg hfirst, linksAt_cons, linksAt_cons, ih]
      by_cases hid : id = first
      · rw [if_pos hid, if_pos hid, if_neg (hid ▸ hfirst)]
      · rw [if_neg hid, if_neg hid]

theorem mem_linksAt_note (incidence : Incidence) (node link : String) :
    x ∈ (incidence.note node link).linksAt id ↔
    x ∈ incidence.linksAt id ∨ node = id ∧ link = x := by
  rw [linksAt_note]
  split_ifs with hid
  · simp [hid, eq_comm]
  · simp [Ne.symm hid]

theorem mem_linksAt_join (incidence : Incidence) (link : Link) :
    x ∈ (incidence.join link).linksAt id ↔
      x ∈ incidence.linksAt id ∨ link.touches id = true ∧ link.id = x := by
  simp only [join, Link.touches, Bool.or_eq_true, beq_iff_eq]
  split_ifs with hloop
  · rw [mem_linksAt_note, hloop, or_self]
  · rw [mem_linksAt_note, mem_linksAt_note, or_assoc, ← or_and_right]

theorem mem_linksAt_foldl (incidence : Incidence) (links : List Link) :
    x ∈ (links.foldl join incidence).linksAt id ↔
      x ∈ incidence.linksAt id ∨ ∃ link ∈ links, link.touches id = true ∧ link.id = x := by
  induction links generalizing incidence with
  | nil => simp
  | cons link links ih =>
    rw [List.foldl_cons, ih, mem_linksAt_join]
    simp [or_assoc]

/-- The nodes of the drawing add nothing: a link stands at its ends whether they are listed or
not. -/
theorem mem_linksAt_ofDrawing (nodes : List (Node α)) (links : List Link) :
    x ∈ (ofDrawing nodes links).linksAt id ↔
    ∃ link ∈ links, link.touches id = true ∧ link.id = x := by
  have hempty : linksAt (nodes.map fun node => (node.id, [])) id = [] := by
    induction nodes with
    | nil => rfl
    | cons node nodes ih =>
      rw [List.map_cons, linksAt_cons, ih, ite_self]
  rw [ofDrawing, mem_linksAt_foldl, hempty]
  simp

end Incidence

namespace Coloring

variable {α : Type} {links : List Link} {link : Link} {colors : Coloring} {color : String}

theorem mem_around_iff (nodes : List (Node α)) :
    color ∈ colors.around (.ofDrawing nodes links) link ↔ color ∈ colors.near links link := by
  simp only [around, near, meet, List.mem_filterMap, List.mem_flatMap, List.mem_filter,
    Incidence.mem_linksAt_ofDrawing, List.mem_cons, List.not_mem_nil, or_false, Bool.or_eq_true]
  constructor
  · intro h
    obtain ⟨-, ⟨id, hend, other, ho, htouch, rfl⟩, hcolor⟩ := h
    rcases hend with rfl | rfl
    · exact ⟨other, ⟨ho, Or.inl htouch⟩, hcolor⟩
    · exact ⟨other, ⟨ho, Or.inr htouch⟩, hcolor⟩
  · intro h
    obtain ⟨other, ⟨ho, htouch⟩, hcolor⟩ := h
    rcases htouch with htouch | htouch
    · exact ⟨other.id, ⟨link.source, Or.inl rfl, other, ho, htouch, rfl⟩, hcolor⟩
    · exact ⟨other.id, ⟨link.target, Or.inr rfl, other, ho, htouch, rfl⟩, hcolor⟩

theorem choose_congr {used used' : List String} (h : ∀ color, color ∈ used ↔ color ∈ used')
    (palette : Palette) (index : Nat) : choose palette used index = choose palette used' index := by
  have hcontains (color : String) : used.contains color = used'.contains color := by
    rw [Bool.eq_iff_iff, List.contains_iff_mem, List.contains_iff_mem, h]
  simp only [choose, hcontains]

theorem giveAround_eq (palette : Palette) (nodes : List (Node α)) (links : List Link) :
    giveAround palette (.ofDrawing nodes links) = give palette links := by
  funext colors item
  rw [giveAround, give, choose_congr (fun _ => mem_around_iff nodes)]

/-- The nodes have no influence on the colors. -/
theorem assignAround_eq (palette : Palette) (nodes : List (Node α)) (links : List Link) :
    assignAround palette nodes links = assign palette links := by
  rw [assignAround, assign, giveAround_eq]

end Coloring

end ArchDiagram
