import ArchDiagram.Proofs.Decimal.Integers
import ArchDiagram.Proofs.Source.Steps

namespace ArchDiagram.Source

/-- A label that is written between quotes as it is. -/
def PlainLabel (label : String) : Prop := ∀ c ∈ label.toList, isLabelChar c = true

theorem PlainLabel.whole {label : String} (h : PlainLabel label) : '\n' ∉ label.toList :=
  not_mem_of_kind h (by decide)

theorem PlainLabel.cleaned {label : String} (h : PlainLabel label) : cleaned label = label := by
  have hclean : cleanLabel label = label.toList := by
    rw [cleanLabel]
    conv_rhs => rw [← List.map_id label.toList]
    apply List.map_congr_left
    intro c hc
    have hquote : c ≠ quoteMark := by
      intro he
      have hlabel := h c hc
      rw [he] at hlabel
      exact absurd hlabel (by decide)
    rw [if_neg hquote]
    rfl
  rw [Source.cleaned, hclean, String.ofList_toList]

/-- The ids and labels of a statement can be written as they are. -/
def Statement.Spelled : Statement → Prop
  | .node decl => IsId decl.id ∧ PlainLabel decl.label
  | .container decl => IsId decl.id ∧ PlainLabel decl.label
  | .link decl => ∀ label ∈ decl.label, PlainLabel label
  | .close => True

namespace Language.Yields

variable {range : Int → Prop}

theorem identifier : (word isIdChar).Yields range IsId := by
  intro u id h
  obtain ⟨chars, _, _, rfl, ⟨⟨hchars, rfl⟩, hne⟩, rfl, rfl⟩ := h
  rw [IsId, String.toList_ofList]
  exact ⟨hne, hchars⟩

theorem quoted : Language.quoted.Yields range PlainLabel := by
  intro u label h
  obtain ⟨_, _, _, rfl, -, _, _, _, rfl, ⟨hchars, rfl⟩, _, _, _, rfl, -, rfl, rfl⟩ := h
  intro c hc
  rw [String.toList_ofList] at hc
  exact hchars c hc

theorem idAndLabel : Language.idAndLabel.Yields range fun x => IsId x.1 ∧ PlainLabel x.2 :=
  identifier.bind fun _ hid => skip fun _ => skip fun _ => skip fun _ =>
    quoted.bind fun _ hlabel => pure ⟨hid, hlabel⟩

theorem node_spelled : Language.node.Yields range Statement.Spelled := by
  refine skip fun _ => skip fun _ => idAndLabel.bind fun x hx => ?_
  refine skip fun _ => skip fun _ => skip fun _ => skip fun _ => skip fun _ => skip fun _ => ?_
  exact skip fun _ => skip fun _ => pure hx

theorem container_spelled : Language.container.Yields range Statement.Spelled := by
  refine skip fun _ => skip fun _ => idAndLabel.bind fun x hx => ?_
  refine skip fun _ => skip fun _ => skip fun _ => skip fun _ => skip fun _ => skip fun _ => ?_
  refine skip fun _ => skip fun _ => skip fun _ => skip fun _ => skip fun _ => skip fun _ => ?_
  exact skip fun _ => pure hx

theorem arrowLink_spelled {arrow : List Char} {bidirectional : Bool} :
    (Language.arrowLink arrow bidirectional).Yields range Statement.Spelled := by
  have hlabel : (perhaps do
      Language.gap; Language.exactly [':']; Language.gap; Language.quoted).Yields range
        fun label => ∀ text ∈ label, PlainLabel text := by
    intro u label h
    rcases h with ⟨-, rfl⟩ | ⟨text, ht, rfl⟩
    · simp
    · have hplain : PlainLabel text := skip (fun _ => skip fun _ => skip fun _ => quoted) u text ht
      simpa using hplain
  refine skip fun _ => skip fun _ => skip fun _ => skip fun _ => skip fun _ => ?_
  exact hlabel.bind fun _ hl => pure hl

end Language.Yields

open ArchDiagram.Source.Language in
theorem spelled_of_readStatement {line : List Char} {s : Statement}
    (h : readStatement line = .ok s) :
    s.Spelled := by
  have hl := language_of_readStatement h
  generalize Heading.ofLine line = heading at hl
  cases heading with
  | node => exact Yields.node_spelled.lines line s hl
  | link =>
    refine Yields.lines (fun u s h => ?_) line s hl
    rcases h with h | h
    · exact Yields.arrowLink_spelled u s h
    · exact Yields.arrowLink_spelled u s h
  | container => exact Yields.container_spelled.lines line s hl
  | close => exact Yields.lines (Yields.skip fun _ => Yields.pure True.intro) line s hl
  | unknown => contradiction

theorem inRange_of_readStatement {line : List Char} {s : Statement}
    (h : readStatement line = .ok s) :
    ∀ n ∈ s.integers, Scan.inRange n = true :=
  integers_range _ _ line s (language_of_readStatement h)

section Lossless

/-- A number that an integer of the signed 64-bit range is stored as. -/
def Stored (x : Float) : Prop := ∃ n : Int, Scan.inRange n = true ∧ x = (n : Float)

theorem Stored.nearest {x : Float} (h : Stored x) : ((Scalar.nearest x : Int) : Float) = x := by
  obtain ⟨n, hn, rfl⟩ := h
  exact (Decimal.ofInt_floatNearest hn).2

theorem stored_defaultWidth : Stored Node.defaultWidth := ⟨120, rfl, by decide +kernel⟩

theorem stored_defaultHeight : Stored Node.defaultHeight := ⟨100, rfl, by decide +kernel⟩

theorem stored_elim {size : Option Int} {x : Float} (hx : Stored x)
    (h : ∀ n ∈ size.toList, Scan.inRange n = true) : Stored (size.elim x fun n => (n : Float)) := by
  cases size with
  | none => exact hx
  | some n => exact ⟨n, h n (by simp), rfl⟩

structure LosslessNode (node : Node Float) : Prop where
  id : IsId node.id
  label : PlainLabel node.label
  x : Stored node.x
  y : Stored node.y
  width : Stored node.width
  height : Stored node.height
  style : node.style = {}

structure LosslessContainer (container : Container Float) : Prop where
  id : IsId container.id
  label : PlainLabel container.label
  x : Stored container.x
  y : Stored container.y
  width : Stored container.width
  height : Stored container.height

theorem LosslessNode.reread_eq {node : Node Float} (h : LosslessNode node) :
    reread node node.owner = node := by
  have hx := h.x.nearest
  have hy := h.y.nearest
  have hwidth := h.width.nearest
  have hheight := h.height.nearest
  have hstyle := h.style
  have hlabel := h.label.cleaned
  cases node
  simp_all [reread, Progress.nodeOf, nodeDecl]

theorem LosslessContainer.rereadContainer_eq {container : Container Float}
    (h : LosslessContainer container) :
    rereadContainer container container.children = container := by
  have hx := h.x.nearest
  have hy := h.y.nearest
  have hwidth := h.width.nearest
  have hheight := h.height.nearest
  have hlabel := h.label.cleaned
  cases container
  simp_all [rereadContainer, Progress.containerOf, containerDecl]

theorem losslessNode_nodeOf {u : List Char} {decl : NodeDecl}
    (h : readStatement u = .ok (.node decl)) (icon : Icon) (owner : Option String) :
    LosslessNode (Progress.nodeOf decl icon owner) := by
  obtain ⟨hid, hlabel⟩ := spelled_of_readStatement h
  have hrange := inRange_of_readStatement h
  simp only [Statement.integers, List.forall_mem_append, List.forall_mem_cons] at hrange
  obtain ⟨⟨⟨hx, hy, -⟩, hwidth⟩, hheight⟩ := hrange
  exact ⟨hid, hlabel, ⟨_, hx, rfl⟩, ⟨_, hy, rfl⟩, stored_elim stored_defaultWidth hwidth,
    stored_elim stored_defaultHeight hheight, rfl⟩

theorem losslessContainer_containerOf {u : List Char} {decl : ContainerDecl}
    (h : readStatement u = .ok (.container decl)) (kind : ContainerKind) :
    LosslessContainer (Progress.containerOf decl kind) := by
  obtain ⟨hid, hlabel⟩ := spelled_of_readStatement h
  have hrange := inRange_of_readStatement h
  simp only [Statement.integers, List.forall_mem_cons] at hrange
  obtain ⟨hx, hy, hwidth, hheight, -⟩ := hrange
  exact ⟨hid, hlabel, ⟨_, hx, rfl⟩, ⟨_, hy, rfl⟩, ⟨_, hwidth, rfl⟩, ⟨_, hheight, rfl⟩⟩

/-- All that is declared can be written as it is. -/
structure Stage.Lossless (s : Stage Float) : Prop where
  nodes : ∀ node ∈ s.nodes, LosslessNode node
  containers : ∀ container ∈ s.containers, LosslessContainer container
  links : ∀ decl ∈ s.links, ∀ label ∈ decl.label, PlainLabel label

theorem losslessContainer_listAll {containers : List (Container Float)}
    (h : ∀ container ∈ containers, LosslessContainer container) (owner : Option String)
    (ids : List String) :
    ∀ container ∈ listAll containers owner ids, LosslessContainer container := by
  cases owner with
  | none => exact h
  | some id =>
    intro container hm
    obtain ⟨before, hb, rfl⟩ := List.mem_map.mp hm
    obtain ⟨hid, hlabel, hx, hy, hwidth, hheight⟩ := h before hb
    split_ifs <;> exact ⟨hid, hlabel, hx, hy, hwidth, hheight⟩

theorem Takes.lossless {u : List Char} {s t : Stage Float} (h : Takes u s t) (hs : s.Lossless) :
    t.Lossless := by
  cases h with
  | node hr =>
    refine ⟨?_, losslessContainer_listAll hs.containers _ _, hs.links⟩
    rw [List.forall_mem_append, List.forall_mem_singleton]
    exact ⟨hs.nodes, losslessNode_nodeOf hr _ _⟩
  | link hr =>
    refine ⟨hs.nodes, hs.containers, ?_⟩
    rw [List.forall_mem_append, List.forall_mem_singleton]
    exact ⟨hs.links, spelled_of_readStatement hr⟩
  | container hr =>
    refine ⟨hs.nodes, ?_, hs.links⟩
    rw [List.forall_mem_append, List.forall_mem_singleton]
    exact ⟨hs.containers, losslessContainer_containerOf hr _⟩
  | close => exact ⟨hs.nodes, hs.containers, hs.links⟩

theorem Steps.lossless {us : List (List Char)} {s t : Stage Float} (h : Steps us s t)
    (hs : s.Lossless) :
    t.Lossless := by
  induction h with
  | nil => exact hs
  | cons hu _ ih => exact ih (hu.lossless hs)

theorem lossless_of_compile {title source : String} {d : Diagram Float}
    (h : compile title source = .ok d) :
    (declared d source).Lossless :=
  (steps_of_compile h).lossless
    ⟨by simp [Stage.initial], by simp [Stage.initial], by simp [Stage.initial]⟩

end Lossless

end ArchDiagram.Source
