import ArchDiagram.Proofs.Diagram.Greedy

namespace ArchDiagram.Coloring

open Link (sameColor)

variable {α : Type} {before after : List Link} {other later : Link} {color : String}

theorem sameColor_refl (color : String) : sameColor color color = true := beq_self_eq_true _

/-- In no case of its letters is the color that of another link around a link. -/
def Unlike (colors : Coloring) (links : List Link) (link : Link) (color : String) : Prop :=
  ∀ other ∈ links, other ≠ link → meet other link = true →
    ∀ used ∈ colors.lookup other.id, sameColor color used = false

instance (colors : Coloring) (links : List Link) (link : Link) (color : String) :
    Decidable (Unlike colors links link color) :=
  inferInstanceAs (Decidable (∀ other ∈ links, _))

theorem Unlike.not_carried {colors : Coloring}
    (hids : ((before ++ later :: after).map (·.id)).Nodup) (hbare : later.isColored = false)
    (h : Unlike colors (before ++ later :: after) later color) :
    ¬Carried colors (before ++ later :: after) before later color := by
  intro hcarried
  obtain ⟨link, hm, hset, hmeet, hcolor⟩ := hcarried
  have hdiffer := h link hm (ne_of_set hids hbare hset) hmeet color hcolor
  rw [sameColor_refl] at hdiffer
  contradiction

/-- A link next to a colored one gets another text than its color. It gets the same color in another
spelling exactly if this is the first of the palette that no link around it has as a text, so not if
the palette spells the color in no other way. -/
theorem sameColor_iff_respelled (palette : Palette) (nodes : List (Node α))
    (hids : ((before ++ later :: after).map (·.id)).Nodup)
    (hother : other ∈ before ++ later :: after) (hcolored : other.isColored = true)
    (hbare : later.isColored = false) (hmeet : meet other later = true)
    (hunlike : ∃ color ∈ palette,
      Unlike (assignAround palette nodes (before ++ later :: after))
      (before ++ later :: after) later color) :
    let links := before ++ later :: after
    let colors := assignAround palette nodes links
    ∃ own color, other.style.color = some own ∧ colors.lookup other.id = some own ∧
      colors.lookup later.id = some color ∧ color ∈ palette ∧ color ≠ own ∧
      (sameColor color own = true ↔ ∃ front spelling back, palette = front ++ spelling :: back ∧
        spelling ≠ own ∧ sameColor spelling own = true ∧
        (∀ used ∈ front, Carried colors links before later used) ∧
          ¬Carried colors links before later spelling) ∧
      ((∀ spelling ∈ palette, sameColor spelling own = true → spelling = own) →
        sameColor color own = false) := by
  intro links colors
  have hgreedy : Greedy palette links colors := greedy_assignAround palette nodes hids
  obtain ⟨own, hown, -⟩ := (Option.any_eq_true _ _).mp hcolored
  have hlookup : colors.lookup other.id = some own := (hgreedy.own other hother hcolored).trans hown
  obtain ⟨color, hcolor, hpicked⟩ := hgreedy.picked before later after rfl hbare
  obtain ⟨free, hfree, hnone⟩ := hunlike
  have hchoice := hpicked.free ⟨free, hfree, hnone.not_carried hids hbare⟩
  have hused : Carried colors links before later own :=
    ⟨other, hother, Or.inr hcolored, hmeet, hlookup⟩
  have hne : color ≠ own := fun he => hchoice.2 (he ▸ hused)
  refine ⟨own, color, hown, hlookup, hcolor, hchoice.1, hne,
    ⟨fun hsame => ?_, fun hspelled => ?_⟩, fun hone => ?_⟩
  · obtain ⟨front, back, split, taken⟩ := hpicked.exists_split (List.ne_nil_of_mem hfree) hchoice.2
    exact ⟨front, color, back, split, hne, hsame, taken, hchoice.2⟩
  · obtain ⟨front, spelling, back, split, -, hsame, taken, hunused⟩ := hspelled
    rw [hpicked.eq_first split taken hunused]
    exact hsame
  · rw [Bool.eq_false_iff]
    exact fun hsame => hne (hone color hchoice.1 hsame)

section Capitals

def blueLink : Link :=
  { id := "link-1", source := "a", target := "b", style := { color := some "#3B82F6" } }

def bareLink : Link := { id := "link-2", source := "b", target := "c" }

def blueAndRed : Palette := ["#3b82f6", "#ef4444"]

theorem sameColor_iff_respelled_blue :
    let links := [blueLink] ++ [bareLink]
    let colors := assignAround blueAndRed ([] : List (Node Int)) links
    ((links.map (·.id)).Nodup ∧ blueLink ∈ links ∧ blueLink.isColored = true ∧
      bareLink.isColored = false ∧
      meet blueLink bareLink = true ∧ ∃ color ∈ blueAndRed, Unlike colors links bareLink color) ∧
    ∃ own color, blueLink.style.color = some own ∧ colors.lookup blueLink.id = some own ∧
      colors.lookup bareLink.id = some color ∧ color ∈ blueAndRed ∧ color ≠ own ∧
      (sameColor color own = true ↔ ∃ front spelling back, blueAndRed = front ++ spelling :: back ∧
        spelling ≠ own ∧ sameColor spelling own = true ∧
        (∀ used ∈ front, Carried colors links [blueLink] bareLink used) ∧
        ¬Carried colors links [blueLink] bareLink spelling) ∧
      ((∀ spelling ∈ blueAndRed, sameColor spelling own = true → spelling = own) →
        sameColor color own = false) := by
  intro links colors
  have hids : (links.map (·.id)).Nodup := by decide
  have hother : blueLink ∈ links := by decide
  have hcolored : blueLink.isColored = true := by decide
  have hbare : bareLink.isColored = false := by decide
  have hmeet : meet blueLink bareLink = true := by decide
  have hunlike : ∃ color ∈ blueAndRed, Unlike colors links bareLink color := by decide
  exact ⟨⟨hids, hother, hcolored, hbare, hmeet, hunlike⟩,
    sameColor_iff_respelled blueAndRed [] hids hother hcolored hbare hmeet hunlike⟩

/-- A color in capitals does not keep the same color in small letters from the next link. -/
theorem capitals_not_blocked :
    ¬∀ (palette : Palette) (nodes : List (Node Int)) (links : List Link), (links.map (·.id)).Nodup →
      ∀ other ∈ links, ∀ later ∈ links, other.isColored = true → later.isColored = false →
        meet other later = true →
        (∃ color ∈ palette, Unlike (assignAround palette nodes links) links later color) →
        ∀ own ∈ (assignAround palette nodes links).lookup other.id,
          ∀ color ∈ (assignAround palette nodes links).lookup later.id,
            sameColor color own = false := by
  intro h
  have hdiffer :=
    h blueAndRed [] [blueLink, bareLink] (by decide) blueLink (by decide) bareLink (by decide)
    (by decide) (by decide) (by decide) (by decide) "#3B82F6" (by decide) "#3b82f6" (by decide)
  exact absurd hdiffer (by decide)

end Capitals

end ArchDiagram.Coloring
