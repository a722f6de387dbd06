import Mathlib
import ArchDiagram.Generate
import ArchDiagram.Proofs.Draft
import ArchDiagram.Proofs.Layout.Extent
import ArchDiagram.Proofs.Redrawn
import ArchDiagram.Proofs.Text.Width

namespace ArchDiagram

open Layout Prompt Source

section Draft

variable {α : Type} [Scalar α] {limit : ℕ} {a : Analysis α}

theorem plainLabel_of_plainName {name : String} (h : PlainName limit name) : PlainLabel name := by
  intro c hc
  have hmarks : c ≠ quoteMark ∧ c ≠ '\n' := by
    rcases h.chars c hc with rfl | hlow
    · decide
    · constructor <;> rintro rfl <;> exact absurd hlow (by decide)
  simp [isLabelChar, hmarks]

theorem plainLabel_relationTerm : ∀ term ∈ relationTerms, PlainLabel term.1 := by
  have hchars : (relationTerms.all fun term => term.1.toList.all isLabelChar) = true := by
    decide +kernel
  exact fun term hm => List.all_eq_true.mp (List.all_eq_true.mp hchars term hm)

theorem plainLabel_tier (tier : Tier) : PlainLabel tier.label := by
  have hchars : tier.label.toList.all isLabelChar = true := by cases tier <;> decide
  exact List.all_eq_true.mp hchars

theorem plain_draft (h : a.Sound limit) : Plain a.draft := by
  refine ⟨?_, ?_, ?_, ?_⟩
  · intro node hm
    obtain ⟨e, he, rfl⟩ := Analysis.mem_nodes_draft.mp hm
    exact ⟨h.collected.legal e he, plainLabel_of_plainName (h.names e he), rfl⟩
  · intro c hc
    rw [Analysis.containerList_draft] at hc
    split_ifs at hc
    · obtain ⟨tier, rfl, -⟩ := Analysis.mem_tierContainers_iff.mp hc
      exact ⟨Analysis.isId_tierId tier, plainLabel_tier tier⟩
    · contradiction
  · intro link hm label hl
    obtain ⟨r, hr, number, rfl⟩ := Analysis.mem_links_draft hm
    obtain ⟨term, hterm, he⟩ := List.mem_map.mp (h.related r hr).label
    obtain rfl : r.label = label := Option.some.inj hl
    exact he ▸ plainLabel_relationTerm term hterm
  · have htitles : ∀ pattern ∈ Pattern.all, '\n' ∉ (pattern.title ++ " Architecture").toList := by
      decide
    exact htitles a.pattern (Pattern.mem_all _)

theorem linksNumbered_draft (a : Analysis α) : LinksNumbered a.draft := by
  have hids : a.draft.links.map (·.id) =
      (a.relationships.zipIdx 1).map fun item => "link-" ++ toString item.2 := by
    rw [Analysis.draft, List.map_map]
    rfl
  have hlength : a.draft.links.length = a.relationships.length := by simp [Analysis.draft]
  rw [LinksNumbered, hids, hlength, ← List.zipIdx_map_snd, List.map_map]
  rfl

/-- The drawing of a generated diagram is that of its draft. -/
theorem redrawn_generate (prompt : String) (algorithm? : Option Algorithm)
    (palette? : Option Palette) :
    (analyze prompt : Analysis α).draft.Redrawn (generate prompt algorithm? palette?).diagram :=
  (Diagram.redrawn_position (Analysis.wellFormed_draft (sound_analyze prompt)) _ _).trans
    (Diagram.redrawn_paintWith _ palette?)

/-- A generated diagram is compiled again, whatever numbers it is drawn with. -/
theorem compile_generate (hrange : ∀ x : α, Scan.inRange (Scalar.nearest x) = true)
    (title prompt : String) (algorithm? : Option Algorithm) (palette? : Option Palette) :
    let d : Diagram α := (generate prompt algorithm? palette?).diagram
    ∃ d', Source.compile title (toSource d) = .ok d' ∧ d'.title = title ∧
      d'.nodes.Perm (d.nodes.map (roundedNode Scalar.nearest)) ∧
      d'.containers = d.containers.map (List.map (roundedContainer Scalar.nearest)) ∧
      d'.links = d.links.map bareLink := by
  have hsound := sound_analyze (α := α) prompt
  have hdrawn := redrawn_generate (α := α) prompt algorithm? palette?
  exact (hdrawn.plain (plain_draft hsound)).compile_plain
    (hdrawn.wellFormed (Analysis.wellFormed_draft hsound))
      (hdrawn.linksNumbered (linksNumbered_draft _)) hrange title

end Draft

section Exact

variable {limit : ℕ} {a : Analysis ℝ}

theorem labelledWidth_bounds {name : String} (h : name.toList.length ≤ limit) :
    0 ≤ (labelledWidth name : ℝ) ∧ (labelledWidth name : ℝ) ≤ 24 * limit + 160 := by
  have hcolumns : Text.width name.toList ≤ 3 * limit := (Text.width_le _).trans (by omega)
  have hcast : (Text.width name.toList : ℝ) ≤ 3 * limit := by exact_mod_cast hcolumns
  have hpos : (0 : ℝ) ≤ Text.width name.toList := Nat.cast_nonneg _
  have hdefault : (Node.defaultWidth : ℝ) = 120 := by norm_num [Node.defaultWidth]
  rw [labelledWidth, Scalar.max_eq, hdefault]
  refine ⟨le_max_of_le_right (by norm_num), max_le ?_ ?_⟩ <;> linarith

theorem length_tierContainers (a : Analysis ℝ) : a.tierContainers.length ≤ few := by
  have hsub : a.tierContainers.Sublist (Tier.all.map a.tierContainer) := List.filter_sublist
  exact hsub.length_le.trans (by simp [Tier.all, few])

theorem small_draft (h : a.Sound limit) :
    Small (24 * limit + 160) ⟨a.draft.nodes, a.draft.containerList⟩ := by
  have hlimit : (0 : ℝ) ≤ limit := limit.cast_nonneg
  have hheight : (Node.defaultHeight : ℝ) = 100 := by norm_num [Node.defaultHeight]
  have hids : (a.entities.map (·.id)).length ≤ few := by
    rw [List.length_map]
    exact h.collected.few
  refine ⟨?_, ?_, ?_, ?_⟩
  · change (a.entities.map (Entity.toNode a.isGrouped)).length ≤ few
    rwa [List.length_map] at hids ⊢
  · rw [Analysis.containerList_draft]
    split_ifs
    · exact length_tierContainers a
    · simp
  · intro c hc
    rw [Analysis.containerList_draft] at hc
    split_ifs at hc
    · obtain ⟨tier, rfl, -⟩ := Analysis.mem_tierContainers_iff.mp hc
      exact (Analysis.children_sublist a tier).length_le.trans hids
    · contradiction
  · intro node hm
    obtain ⟨e, he, rfl⟩ := Analysis.mem_nodes_draft.mp hm
    refine ⟨labelledWidth_bounds (h.names e he).short, ?_⟩
    change 0 ≤ (Node.defaultHeight : ℝ) ∧ (Node.defaultHeight : ℝ) ≤ _
    rw [hheight]
    constructor <;> linarith

theorem boxed_draft (a : Analysis ℝ) : ∀ c ∈ a.draft.containerList, Boxed 61000 c := by
  intro c hc
  rw [Analysis.containerList_draft] at hc
  split_ifs at hc
  · obtain ⟨tier, rfl, -⟩ := Analysis.mem_tierContainers_iff.mp hc
    constructor <;> norm_num [Analysis.tierContainer, Container.fresh]
  · contradiction

/-- How far the drawing of a description of a length may extend. -/
def extent (length : ℕ) : ℝ := 612000 + 19200 * length

/-- All numbers of a drawing are within a distance of zero. -/
structure Bounded (r : ℝ) (d : Diagram ℝ) : Prop where
  nodes : ∀ node ∈ d.nodes, |node.x| ≤ r ∧ |node.y| ≤ r ∧ |node.width| ≤ r ∧ |node.height| ≤ r
  containers : ∀ c ∈ d.containerList, Boxed r c

/-- A small drawing that is laid out by a modest plan stays bounded. -/
theorem bounded_of_small {w : ℝ} {d : Diagram ℝ} (hsmall : Small w ⟨d.nodes, d.containerList⟩)
    (hw : 0 ≤ w) (hboxed : ∀ c ∈ d.containerList, Boxed 61000 c) {plan : Plan ℝ}
    (hp : Modest plan) (a : Analysis ℝ) :
    Bounded (500000 + 100 * w) (d.position plan a) := by
  obtain ⟨hnodes, hcontainers⟩ := within_position hp hsmall hw hboxed a
  have hsizeless : Placeless dimensions := fun _ _ _ => rfl
  have hsized :=
    sized_of_map (map_view_position hsizeless (fun _ _ _ _ _ _ _ => rfl) plan a) hsmall.sized
  constructor
  · intro node hm
    obtain ⟨hx, hy⟩ := hnodes node hm
    obtain ⟨⟨hw, hw'⟩, hh, hh'⟩ := hsized node hm
    refine ⟨hx, hy, ?_, ?_⟩ <;> rw [abs_le] <;> constructor <;> linarith
  · rw [Diagram.containerList_position]
    exact hcontainers

theorem bounded_position (h : a.Sound limit) {plan : Plan ℝ} (hp : Modest plan) :
    Bounded (500000 + 100 * (24 * limit + 160)) (a.draft.position plan a) := by
  have hlimit : (0 : ℝ) ≤ limit := limit.cast_nonneg
  exact bounded_of_small (small_draft h) (by linarith) (boxed_draft a) hp a

/-- Another algorithm needs no more room. -/
theorem modest_override (a : Analysis ℝ) (algorithm : Algorithm) :
    Modest { choosePlan a with algorithm } := by
  obtain ⟨hnode, hlevel, hcontainer, hx, hy⟩ := modest_choosePlan a
  exact ⟨hnode, hlevel, hcontainer, hx, hy⟩

theorem Bounded.paintWith {r : ℝ} {d : Diagram ℝ} (h : Bounded r d) (palette? : Option Palette) :
    Bounded r (d.paintWith palette?) := by
  cases palette? with
  | none => exact h
  | some palette => exact ⟨h.nodes, h.containers⟩

theorem bounded_generate (prompt : String) (algorithm? : Option Algorithm)
    (palette? : Option Palette) :
    Bounded (extent prompt.length) (generate prompt algorithm? palette?).diagram := by
  have hlength : prompt.toList.length = prompt.length := String.length_toList
  have hextent : (500000 + 100 * (24 * (nameLimit prompt.toList.length : ℕ) + 160) : ℝ) =
      extent prompt.length := by
    rw [extent, nameLimit, hlength]
    push_cast
    ring
  have hsound := sound_analyze (α := ℝ) prompt
  have hbounded := bounded_position hsound (modest_override (analyze prompt)
    (algorithm?.getD (choosePlan (analyze prompt : Analysis ℝ)).algorithm))
  rw [hextent] at hbounded
  exact hbounded.paintWith palette?

theorem Bounded.stored {r : ℝ} {d : Diagram ℝ} (h : Bounded r d) (hr : r ≤ 9000000000000000000) :
    d.nodes.map (roundedNode Scalar.nearest) = d.nodes.map (roundedNode roundAway) ∧
      d.containers.map (List.map (roundedContainer Scalar.nearest)) =
        d.containers.map (List.map (roundedContainer roundAway)) := by
  have hnumber {x : ℝ} (hx : |x| ≤ r) : ((Scalar.nearest x : Int) : ℝ) = (roundAway x : ℝ) := by
    obtain ⟨hlow, hhigh⟩ := abs_le.mp (hx.trans hr)
    exact congrArg Int.cast (saturated_roundAway (by linarith) (by linarith))
  constructor
  · apply List.map_congr_left
    intro node hm
    obtain ⟨hx, hy, hwidth, hheight⟩ := h.nodes node hm
    rw [roundedNode, roundedNode, hnumber hx, hnumber hy, hnumber hwidth, hnumber hheight]
  · cases hc : d.containers with
    | none => rfl
    | some containers =>
      refine congrArg some (List.map_congr_left fun c hm => ?_)
      obtain ⟨hx, hy, hwidth, hheight⟩ :=
        h.containers c (by simpa [Diagram.containerList, hc] using hm)
      rw [roundedContainer, roundedContainer, hnumber hx, hnumber hy, hnumber hwidth,
        hnumber hheight]

/-- A generated diagram that is written as source and compiled again has the same nodes, containers
and links, whatever the description says. Its numbers are the exact ones rounded to integers. They
stay within the range of stored integers unless the description has more characters than an address
of 48 bits can tell apart. -/
theorem compile_toSource_generate (title prompt : String) (algorithm? : Option Algorithm)
    (palette? : Option Palette) :
    let d : Diagram ℝ := (generate prompt algorithm? palette?).diagram
    ∃ d', Source.compile title (toSource d) = .ok d' ∧
      d'.nodes.Perm (d.nodes.map (roundedNode Scalar.nearest)) ∧
      d'.containers = d.containers.map (List.map (roundedContainer Scalar.nearest)) ∧
      d'.links = d.links.map bareLink ∧
      (prompt.length < 2 ^ 48 →
        d'.nodes.Perm (d.nodes.map (roundedNode roundAway)) ∧
          d'.containers = d.containers.map (List.map (roundedContainer roundAway))) := by
  intro d
  have hrange (x : ℝ) : Scan.inRange (Scalar.nearest x) = true := inRange_saturated (roundAway x)
  obtain ⟨d', hcompile, -, hnodes, hcontainers, hlinks⟩ :=
    compile_generate hrange title prompt algorithm? palette?
  refine ⟨d', hcompile, hnodes, hcontainers, hlinks, fun hshort => ?_⟩
  have hextent : extent prompt.length ≤ 9000000000000000000 := by
    have hlength : (prompt.length : ℝ) ≤ 281474976710656 := by exact_mod_cast hshort.le
    rw [extent]
    linarith
  obtain ⟨hnodes', hcontainers'⟩ := (bounded_generate prompt algorithm? palette?).stored hextent
  exact ⟨hnodes' ▸ hnodes, hcontainers' ▸ hcontainers⟩

theorem compile_toSource_generate_chain :
    let prompt :=
      "Users call the \"billing\" service in each tier.\nThe billing service writes to the data store"
    let d : Diagram ℝ := (generate prompt none (some ["#ff0000"])).diagram
    prompt.length < 2 ^ 48 ∧ ∃ d', Source.compile "Shop" (toSource d) = .ok d' ∧
      d'.nodes.Perm (d.nodes.map (roundedNode roundAway)) ∧
      d'.containers = d.containers.map (List.map (roundedContainer roundAway)) ∧
      d'.links = d.links.map bareLink := by
  intro prompt d
  have hshort : prompt.length < 2 ^ 48 := by decide
  obtain ⟨d', hcompile, -, -, hlinks, hrounded⟩ :=
    compile_toSource_generate "Shop" prompt none (some ["#ff0000"])
  exact ⟨hshort, d', hcompile, (hrounded hshort).1, (hrounded hshort).2, hlinks⟩

end Exact

end ArchDiagram
