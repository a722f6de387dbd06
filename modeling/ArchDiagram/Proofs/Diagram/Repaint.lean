import Mathlib.Data.List.Induction
import ArchDiagram.Proofs.Diagram.Greedy

namespace ArchDiagram

namespace Link

variable {colors : Coloring} {link : Link} {color : String}

def uncolored (link : Link) : Link := { link with style := { link.style with color := none } }

theorem painted_of_lookup (h : colors.lookup link.id = some color) :
    link.painted colors = { link with style := { link.style with color := some color } } := by
  rw [painted, h]

@[simp] theorem painted_id (colors : Coloring) (link : Link) :
    (link.painted colors).id = link.id := by
  rw [painted]
  split <;> rfl

theorem uncolored_painted (colors : Coloring) (link : Link) :
    (link.painted colors).uncolored = link.uncolored := by
  rw [painted]
  split <;> rfl

@[simp] theorem meet_painted (colors : Coloring) (a b : Link) :
    Coloring.meet (a.painted colors) (b.painted colors) = Coloring.meet a b := by
  have hends (link : Link) : (link.painted colors).source = link.source ∧
      (link.painted colors).target = link.target := by
    rw [painted]
    split <;> exact ⟨rfl, rfl⟩
  simp only [Coloring.meet, touches, (hends a).1, (hends a).2, (hends b).1, (hends b).2]

theorem color_painted (h : colors.lookup link.id = some color) :
    (link.painted colors).style.color = some color := by
  rw [painted_of_lookup h]

theorem painted_of_own (h : colors.lookup link.id = link.style.color) :
    link.painted colors = link := by
  cases hcolor : link.style.color with
  | none =>
    rw [painted, h, hcolor]
  | some color =>
    rw [hcolor] at h
    rw [painted_of_lookup h, ← hcolor]

theorem isColored_of_color (h : link.style.color = some color) :
    link.isColored = !sameColor color defaultColor := by
  rw [isColored, h, Option.any_some]

end Link

namespace Coloring

variable {palette : Palette} {links before : List Link} {link later : Link}
  {colors colors' : Coloring} {color : String}

section Again

theorem Greedy.isColored_painted (h : Greedy palette links colors) (hm : link ∈ links)
    (hcolored : link.isColored = true) : (link.painted colors).isColored = true := by
  rw [Link.painted_of_own (h.own link hm hcolored)]
  exact hcolored

/-- What is used around a link in the first run is used in the second. -/
theorem Carried.painted (h : Greedy palette links colors)
    (h' : Greedy palette (links.map (Link.painted colors)) colors')
    (hbefore : ∀ link ∈ before, colors'.lookup link.id = colors.lookup link.id)
    (hcarried : Carried colors links before later color) :
    Carried colors' (links.map (Link.painted colors)) (before.map (Link.painted colors))
      (later.painted colors)
      color := by
  obtain ⟨link, hm, hset, hmeet, hcolor⟩ := hcarried
  have hm' : link.painted colors ∈ links.map (Link.painted colors) := List.mem_map_of_mem hm
  refine ⟨link.painted colors, hm', ?_, by simpa using hmeet, ?_⟩
  · exact hset.imp List.mem_map_of_mem (h.isColored_painted hm)
  · rcases hset with hearlier | hcolored
    · rw [Link.painted_id, hbefore link hearlier, hcolor]
    · rw [h'.own _ hm' (h.isColored_painted hm hcolored), Link.color_painted hcolor]

/-- What is used around a link in the second run and is the default color was used in the first
one. -/
theorem Carried.of_painted (h' : Greedy palette (links.map (Link.painted colors)) colors')
    (hbefore : ∀ link ∈ before, link ∈ links ∧ colors'.lookup link.id = colors.lookup link.id)
    (hplain : Link.sameColor color Link.defaultColor = true)
    (hcarried : Carried colors' (links.map (Link.painted colors)) (before.map (Link.painted colors))
      (later.painted colors) color) : Carried colors links before later color := by
  obtain ⟨seen, hm, hset, hmeet, hcolor⟩ := hcarried
  rcases hset with hearlier | hcolored
  · obtain ⟨link, hl, rfl⟩ := List.mem_map.mp hearlier
    obtain ⟨hlinks, hsame⟩ := hbefore link hl
    rw [Link.painted_id, hsame] at hcolor
    exact ⟨link, hlinks, Or.inl hl, by simpa using hmeet, hcolor⟩
  · have hown := (h'.own seen hm hcolored).symm.trans hcolor
    rw [Link.isColored_of_color hown, hplain] at hcolored
    contradiction

/-- A run on links that have the colors of a run gives the same colors. -/
theorem Greedy.again (h : Greedy palette links colors)
    (h' : Greedy palette (links.map (Link.painted colors)) colors') :
    ∀ link ∈ links, colors'.lookup link.id = colors.lookup link.id := by
  -- by induction on the links that have been visited, so that the used colors can be compared
  have hvisited (before : List Link) : ∀ after, links = before ++ after →
      ∀ link ∈ before, colors'.lookup link.id = colors.lookup link.id := by
    induction before using List.reverseRecOn with
    | nil => simp
    | append_singleton before later ih =>
      intro after he link hm
      rw [List.append_assoc, List.singleton_append] at he
      have hbefore := ih (later :: after) he
      rcases List.mem_append.mp hm with hearlier | hlast
      · exact hbefore link hearlier
      obtain rfl : link = later := List.mem_singleton.mp hlast
      have hlink : link ∈ links := by simp [he]
      obtain ⟨color, hcolor⟩ := h.exists_lookup hlink
      have hpainted := Link.color_painted hcolor
      cases hcolored : (link.painted colors).isColored with
      | true =>
        have hown := h'.own _ (List.mem_map_of_mem hlink) hcolored
        rw [Link.painted_id, hpainted] at hown
        rw [hown, hcolor]
      | false =>
        have hbare : link.isColored = false := by
          rw [Bool.eq_false_iff]
          intro hset
          rw [h.isColored_painted hlink hset] at hcolored
          contradiction
        have hplain : Link.sameColor color Link.defaultColor = true := by
          rw [Link.isColored_of_color hpainted] at hcolored
          simpa using hcolored
        have he' : links.map (Link.painted colors) = before.map (Link.painted colors) ++
            link.painted colors :: after.map (Link.painted colors) := by rw [he]; simp
        obtain ⟨first, hfirst, hpicked⟩ := h.picked before link after he hbare
        obtain ⟨second, hsecond, hpicked'⟩ := h'.picked _ _ _ he' hcolored
        obtain rfl : color = first := Option.some.inj (hcolor.symm.trans hfirst)
        have hmember : ∀ earlier ∈ before, earlier ∈ links ∧
            colors'.lookup earlier.id = colors.lookup earlier.id := fun earlier hm =>
          ⟨by simp [he, hm], hbefore earlier hm⟩
        have hkept :=
          hpicked.mono (fun _ => Carried.painted h h' hbefore)
            (Carried.of_painted h' hmember hplain)
        rw [List.length_map] at hpicked'
        rw [Link.painted_id] at hsecond
        rw [hsecond, hcolor, hpicked'.unique hkept]
  exact hvisited links [] (List.append_nil links).symm

theorem painted_again (palette : Palette) (hids : (links.map (·.id)).Nodup) :
    let painted := links.map (Link.painted (assign palette links))
    painted.map (Link.painted (assign palette painted)) = painted := by
  intro painted
  have hids' : (painted.map (·.id)).Nodup := by
    rw [List.map_map]
    simpa only [Function.comp_def, Link.painted_id] using hids
  have hgreedy := greedy_assign palette hids
  have hsame := hgreedy.again (greedy_assign palette hids')
  have hself : ∀ link ∈ painted, link.painted (assign palette painted) = id link := by
    intro link' hm
    obtain ⟨link, hl, rfl⟩ := List.mem_map.mp hm
    obtain ⟨color, hcolor⟩ := hgreedy.exists_lookup hl
    apply Link.painted_of_own
    rw [Link.painted_id, hsame link hl, Link.color_painted hcolor, hcolor]
  rw [List.map_congr_left hself, List.map_id]

end Again

end Coloring

namespace Diagram

variable {α : Type} {d : Diagram α}

theorem links_paint (palette : Palette) (d : Diagram α) :
    (d.paint palette).links = d.links.map (Link.painted (Coloring.assign palette d.links)) := by
  rw [← Coloring.assignAround_eq palette d.nodes]
  rfl

/-- Painting gives each link its color and changes nothing else, and painting once more changes
nothing at all. -/
theorem paint_paint (palette : Palette) (hids : (d.links.map (·.id)).Nodup) :
    (d.paint palette).paint palette = d.paint palette ∧
      (d.paint palette).title = d.title ∧ (d.paint palette).nodes = d.nodes ∧
      (d.paint palette).containers = d.containers ∧
      (d.paint palette).links.map Link.uncolored = d.links.map Link.uncolored ∧
      (d.paint palette).links.map (·.style.color) =
        d.links.map fun link => (Coloring.assignAround palette d.nodes d.links).lookup link.id := by
  have hpainted := links_paint palette d
  refine ⟨?_, rfl, rfl, rfl, ?_, ?_⟩
  · have hlinks : ((d.paint palette).paint palette).links = (d.paint palette).links := by
      rw [links_paint, hpainted]
      exact Coloring.painted_again palette hids
    exact congrArg (fun links => { d with links }) hlinks
  · rw [hpainted, List.map_map]
    exact List.map_congr_left fun link _ => Link.uncolored_painted _ link
  · rw [hpainted, List.map_map, Coloring.assignAround_eq]
    apply List.map_congr_left
    intro link hm
    obtain ⟨color, hcolor⟩ := Coloring.exists_lookup_assign palette hm
    rw [Function.comp_apply, Link.color_painted hcolor, hcolor]

/-- Links around a court, one of them in the default color. -/
def court : Diagram Int where
  title := "Court"
  links := [{ id := "link-1", source := "well", target := "gate" },
    { id := "link-2", source := "gate", target := "well", style := { color := some "#6B7280" } },
    { id := "link-3", source := "well", target := "arch", style := { color := some "red" } }]

def courtPalette : Palette := ["red", "#6B7280", "red", "#6b7280"]

theorem paint_paint_court :
    (court.links.map (·.id)).Nodup ∧ (court.paint courtPalette).paint courtPalette =
      court.paint courtPalette ∧
      (court.paint courtPalette).title = court.title ∧
      (court.paint courtPalette).nodes = court.nodes ∧
      (court.paint courtPalette).containers = court.containers ∧
      (court.paint courtPalette).links.map Link.uncolored = court.links.map Link.uncolored ∧
      (court.paint courtPalette).links.map (·.style.color) =
        court.links.map fun link =>
          (Coloring.assignAround courtPalette court.nodes court.links).lookup link.id := by
  have hids : (court.links.map (·.id)).Nodup := by decide
  exact ⟨hids, paint_paint courtPalette hids⟩

end Diagram

end ArchDiagram
