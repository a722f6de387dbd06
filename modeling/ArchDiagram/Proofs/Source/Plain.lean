import ArchDiagram.Proofs.Source.FixedPoint
import ArchDiagram.Proofs.Source.LinkNumbers

namespace ArchDiagram.Source

variable {α : Type} [Scalar α] {d : Diagram α}

/-- Ids and labels can be written as they are, and nodes have no drawing attributes. -/
structure Plain {α : Type} (d : Diagram α) : Prop where
  nodes : ∀ node ∈ d.nodes, IsId node.id ∧ PlainLabel node.label ∧ node.style = {}
  containers : ∀ c ∈ d.containerList, IsId c.id ∧ PlainLabel c.label
  links : ∀ link ∈ d.links, ∀ label ∈ link.label, PlainLabel label
  title : '\n' ∉ d.title.toList

/-- A node with its numbers rounded to integers. -/
def roundedNode (round : α → Int) (node : Node α) : Node α :=
  { node with
    x := (round node.x : α)
    y := (round node.y : α)
    width := (round node.width : α)
    height := (round node.height : α) }

/-- A container with its numbers rounded to integers. -/
def roundedContainer (round : α → Int) (c : Container α) : Container α :=
  { c with
    x := (round c.x : α)
    y := (round c.y : α)
    width := (round c.width : α)
    height := (round c.height : α) }

def bareLink (link : Link) : Link := { link with style := {} }

namespace Plain

variable (hp : Plain d) (hw : d.WellFormed)
include hp

theorem reread_eq {node : Node α} (hm : node ∈ d.nodes) :
    reread node node.owner = roundedNode Scalar.nearest node := by
  obtain ⟨-, hlabel, hstyle⟩ := hp.nodes node hm
  have hclean := hlabel.cleaned
  cases node
  simp_all [reread, roundedNode, Progress.nodeOf, nodeDecl]

theorem rereadContainer_eq {c : Container α} (hm : c ∈ d.containerList) :
    rereadContainer c c.children = roundedContainer Scalar.nearest c := by
  have hclean := (hp.containers c hm).2.cleaned
  cases c
  simp_all [rereadContainer, roundedContainer, Progress.containerOf, containerDecl]

omit [Scalar α] in
theorem link_eq {link : Link} (hm : link ∈ d.links) {number : Nat}
    (hid : link.id = "link-" ++ toString number) :
    (linkDecl link).link number = bareLink link := by
  have hlabel : link.label.map cleaned = link.label := by
    cases hl : link.label with
    | none => rfl
    | some label => rw [Option.map_some, (hp.links link hm label hl).cleaned]
  rw [LinkDecl.link, linkDecl, bareLink, ← hid, hlabel]

include hw

omit [Scalar α] in
theorem writable : Writable d := by
  refine ⟨hw.nodeIds, hw.containerIds, ?_, ?_, hw.linkEnds, ?_, ?_, ?_, hp.title⟩
  · exact fun node hm => ⟨(hp.nodes node hm).1, (hp.nodes node hm).2.1.whole⟩
  · exact fun c hm => ⟨(hp.containers c hm).1, (hp.containers c hm).2.whole⟩
  · exact fun link hm label hl => (hp.links link hm label hl).whole
  · exact fun c hm child hc => (hw.inOrder c hm).subset hc
  · exact fun c hm => hw.nodeIds.sublist (hw.inOrder c hm)

theorem rereadNodes_perm : (rereadNodes d).Perm (d.nodes.map (roundedNode Scalar.nearest)) := by
  have hperm := (hp.writable hw).rereadNodes_perm
  have hnodes : (d.nodes.map fun node => reread node (ownerId? d node)) =
      d.nodes.map (roundedNode Scalar.nearest) := by
    apply List.map_congr_left
    intro node hm
    rw [ownerId?_of_wellFormed hw hm, hp.reread_eq hm]
  rwa [hnodes] at hperm

theorem rereadContainers_eq :
    rereadContainers d = d.containerList.map (roundedContainer Scalar.nearest) := by
  rw [rereadContainers, filled_of_wellFormed hw, List.map_map]
  apply List.map_congr_left
  intro c hc
  rw [Function.comp_apply, map_id_children hw hc]
  exact hp.rereadContainer_eq hc

omit [Scalar α] hw in
theorem links_eq (hn : LinksNumbered d) :
    ((Text.numbered (d.links.map linkDecl)).map fun item => item.2.link item.1) =
      d.links.map bareLink := by
  rw [Text.numbered_map, List.map_map]
  conv_rhs => rw [← Text.map_snd_numbered d.links, List.map_map]
  apply List.map_congr_left
  intro item hm
  obtain ⟨index, hnumber, hi⟩ := Text.mem_numbered_iff.mp hm
  have hlt : index < d.links.length := (List.getElem?_eq_some_iff.mp hi).1
  have hid : (d.links.map (·.id))[index]? = some ("link-" ++ toString (1 + index)) := by
    rw [hn, List.getElem?_map, List.getElem?_range' hlt, Option.map_some, Nat.one_mul]
  rw [List.getElem?_map, hi, Nat.add_comm, ← hnumber] at hid
  exact hp.link_eq (List.mem_of_getElem? hi) (Option.some.inj hid)

theorem containers_eq : (if (rereadContainers d).isEmpty then none else some (rereadContainers d)) =
    d.containers.map (List.map (roundedContainer Scalar.nearest)) := by
  rw [hp.rereadContainers_eq hw, Diagram.containerList]
  cases hc : d.containers with
  | none => rfl
  | some containers =>
    have hne : containers ≠ [] := fun he => hw.listed (hc.trans (congrArg some he))
    simp [hne]

/-- A plain diagram compiles to one with the same parts, its numbers rounded and its nodes in
another order. -/
theorem compile_plain (hn : LinksNumbered d)
    (hrange : ∀ x : α, Scan.inRange (Scalar.nearest x) = true) (title : String) :
    ∃ d', compile title (toSource d) = .ok d' ∧ d'.title = title ∧
      d'.nodes.Perm (d.nodes.map (roundedNode Scalar.nearest)) ∧
      d'.containers = d.containers.map (List.map (roundedContainer Scalar.nearest)) ∧
      d'.links = d.links.map bareLink :=
  ⟨_, (hp.writable hw).compile_of_texts hrange rfl title, rfl, hp.rereadNodes_perm hw,
    hp.containers_eq hw, hp.links_eq hn⟩

end Plain

end ArchDiagram.Source
