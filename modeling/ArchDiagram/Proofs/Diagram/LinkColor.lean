import Mathlib.Data.List.Nodup
import Mathlib.Data.List.Perm.Subperm
import Mathlib.Tactic.SplitIfs
import ArchDiagram.Diagram.LinkColor

namespace ArchDiagram.Coloring

variable {palette : Palette} {links : List Link} {colors : Coloring} {id color : String}

section Steps

theorem lookup_give_of_ne {item : Link × Nat} (h : id ≠ item.1.id) :
    (give palette links colors item).lookup id = colors.lookup id := by
  rw [give]
  split_ifs
  · rfl
  · rw [List.lookup_cons, beq_false_of_ne h]

theorem lookup_give_of_some (h : colors.lookup id = some color) (item : Link × Nat) :
    (give palette links colors item).lookup id = some color := by
  by_cases he : id = item.1.id
  · have hgiven : (colors.lookup item.1.id).isSome = true := by rw [← he, h]; rfl
    rw [give, if_pos hgiven, h]
  · rw [lookup_give_of_ne he, h]

theorem lookup_give_self (item : Link × Nat) (h : colors.lookup item.1.id = none) :
    (give palette links colors item).lookup item.1.id =
      some (choose palette (colors.near links item.1) item.2) := by
  have hnew : ¬(colors.lookup item.1.id).isSome = true := by rw [h]; exact Bool.false_ne_true
  rw [give, if_neg hnew, List.lookup_cons, beq_self_eq_true]

theorem exists_lookup_give (colors : Coloring) (item : Link × Nat) :
    ∃ color, (give palette links colors item).lookup item.1.id = some color := by
  cases h : colors.lookup item.1.id with
  | some color => exact ⟨color, lookup_give_of_some h item⟩
  | none => exact ⟨_, lookup_give_self item h⟩

end Steps

section Runs

/-- A color that an id has is never taken back. -/
theorem lookup_foldl_of_some (h : colors.lookup id = some color) (items : List (Link × Nat)) :
    (items.foldl (give palette links) colors).lookup id = some color := by
  induction items generalizing colors with
  | nil => exact h
  | cons item items ih => exact ih (lookup_give_of_some h item)

theorem lookup_visited_of_ne {visited : List Link} (h : ∀ link ∈ visited, id ≠ link.id)
    (first : Nat) :
    ((visited.zipIdx first).foldl (give palette links) colors).lookup id = colors.lookup id := by
  induction visited generalizing colors first with
  | nil => rfl
  | cons link visited ih =>
    rw [List.forall_mem_cons] at h
    rw [List.zipIdx_cons, List.foldl_cons, ih h.2, lookup_give_of_ne h.1]

/-- A link that has been visited has a color. -/
theorem exists_lookup_visited {visited : List Link} {link : Link} (hm : link ∈ visited)
    (first : Nat) :
    ∃ color, ((visited.zipIdx first).foldl (give palette links) colors).lookup link.id =
      some color := by
  induction visited generalizing colors first with
  | nil => contradiction
  | cons next visited ih =>
    rw [List.zipIdx_cons, List.foldl_cons]
    rcases List.mem_cons.mp hm with rfl | hm
    · obtain ⟨color, hcolor⟩ := exists_lookup_give colors (link, first)
      exact ⟨color, lookup_foldl_of_some hcolor _⟩
    · exact ih hm (first + 1)

theorem isSome_lookup_ofLinks :
    ((ofLinks links).lookup id).isSome = true ↔
      ∃ link ∈ links, link.isColored = true ∧ link.id = id := by
  have hcolor {link : Link} (h : link.isColored = true) :
      ∃ color, link.style.color = some color := by
    obtain ⟨color, hc, -⟩ := (Option.any_eq_true _ _).mp h
    exact ⟨color, hc⟩
  simp only [List.lookup_isSome_iff, ofLinks, List.mem_reverse, List.mem_filterMap, List.mem_filter,
    Option.map_eq_some_iff, beq_iff_eq]
  constructor
  · intro h
    obtain ⟨entry, ⟨link, ⟨hm, hc⟩, color, -, rfl⟩, rfl⟩ := h
    exact ⟨link, hm, hc, rfl⟩
  · intro h
    obtain ⟨link, hm, hc, rfl⟩ := h
    obtain ⟨color, he⟩ := hcolor hc
    exact ⟨(link.id, color), ⟨link, ⟨hm, hc⟩, color, he, rfl⟩, rfl⟩

/-- Every link gets a color. -/
theorem exists_lookup_assign (palette : Palette) {link : Link} (hm : link ∈ links) :
    ∃ color, (assign palette links).lookup link.id = some color :=
  exists_lookup_visited hm 0

end Runs

section Choices

variable {used : List String}

theorem choose_of_free (h : ∃ color ∈ palette, color ∉ used) (index : Nat) :
    choose palette used index ∈ palette ∧ choose palette used index ∉ used := by
  obtain ⟨free, hfree, hunused⟩ := h
  cases hf : palette.find? (!used.contains ·) with
  | none =>
    have hall := List.find?_eq_none.mp hf free hfree
    simp [hunused] at hall
  | some color =>
    have hchosen : choose palette used index = color := by rw [choose, hf]; rfl
    rw [hchosen]
    exact ⟨List.mem_of_find?_eq_some hf, by simpa using List.find?_some hf⟩

theorem choose_of_exhausted (hpalette : palette ≠ []) (h : ∀ color ∈ palette, color ∈ used)
    (index : Nat) :
    palette[index % palette.length]? = some (choose palette used index) := by
  have hnone : palette.find? (!used.contains ·) = none := by
    rw [List.find?_eq_none]
    intro color hm
    simp [h color hm]
  have hlt : index % palette.length < palette.length :=
    Nat.mod_lt _ (List.length_pos_of_ne_nil hpalette)
  rw [choose, hnone, Option.none_or, List.getElem?_eq_getElem hlt, Option.getD_some]

/-- A used color is only chosen once more when no color of the palette is free. -/
theorem eq_choose_iff (hpalette : palette ≠ []) (hused : color ∈ used) (index : Nat) :
    color = choose palette used index ↔
      (∀ other ∈ palette, other ∈ used) ∧ palette[index % palette.length]? = some color := by
  constructor
  · intro he
    have hexhausted : ∀ other ∈ palette, other ∈ used := by
      by_contra hfree
      push Not at hfree
      obtain ⟨-, hnew⟩ := choose_of_free hfree index
      exact hnew (he ▸ hused)
    exact ⟨hexhausted, he ▸ choose_of_exhausted hpalette hexhausted index⟩
  · intro h
    obtain ⟨hexhausted, hat⟩ := h
    have hchoice := choose_of_exhausted hpalette hexhausted index
    exact Option.some.inj (hat.symm.trans hchoice)

end Choices

section Order

variable {before rest after : List Link} {link later : Link}

/-- The colors of all links at the time when those of the first part have been visited. -/
def visited (palette : Palette) (before rest : List Link) : Coloring :=
  before.zipIdx.foldl (give palette (before ++ rest)) (ofLinks (before ++ rest))

theorem assign_eq (palette : Palette) (before : List Link) (later : Link) (after : List Link) :
    assign palette (before ++ later :: after) =
      (after.zipIdx (before.length + 1)).foldl (give palette (before ++ later :: after))
        (give palette (before ++ later :: after) (visited palette before (later :: after))
          (later, before.length)) := by
  rw [assign, List.zipIdx_append, List.foldl_append, List.zipIdx_cons, List.foldl_cons,
    Nat.zero_add]
  rfl

theorem lookup_assign_of_visited
    (h : (visited palette before (later :: after)).lookup id = some color) :
    (assign palette (before ++ later :: after)).lookup id = some color := by
  rw [assign_eq]
  exact lookup_foldl_of_some (lookup_give_of_some h _) _

/-- Other links have no color yet but those that are colored by themselves. -/
theorem isSome_lookup_visited (palette : Palette) (hids : ((before ++ rest).map (·.id)).Nodup)
    (hm : link ∈ before ++ rest) :
    ((visited palette before rest).lookup link.id).isSome = true ↔
      link ∈ before ∨ link.isColored = true := by
  have hsame {other : Link} (ho : other ∈ before ++ rest) (he : other.id = link.id) :
      other = link :=
    List.inj_on_of_nodup_map hids ho hm he
  constructor
  · intro hsome
    by_contra hnot
    rw [not_or] at hnot
    have hapart : ∀ other ∈ before, link.id ≠ other.id := fun other ho he =>
      hnot.1 (hsame (List.mem_append_left _ ho) he.symm ▸ ho)
    rw [visited, lookup_visited_of_ne hapart, isSome_lookup_ofLinks] at hsome
    obtain ⟨other, ho, hcolored, he⟩ := hsome
    exact hnot.2 (hsame ho he ▸ hcolored)
  · intro h
    rcases h with hbefore | hcolored
    · exact Option.isSome_iff_exists.mpr (exists_lookup_visited hbefore 0)
    · have hown := isSome_lookup_ofLinks.mpr ⟨link, hm, hcolored, rfl⟩
      obtain ⟨color, hcolor⟩ := Option.isSome_iff_exists.mp hown
      rw [visited, lookup_foldl_of_some hcolor]
      rfl

theorem not_mem_before (hids : ((before ++ later :: after).map (·.id)).Nodup) : later ∉ before := by
  intro hm
  rw [List.map_append, List.nodup_append] at hids
  exact hids.2.2 _ (List.mem_map_of_mem hm) _ (by simp) rfl

theorem lookup_visited_later (palette : Palette)
    (hids : ((before ++ later :: after).map (·.id)).Nodup) (hbare : later.isColored = false) :
    (visited palette before (later :: after)).lookup later.id = none := by
  have hset := isSome_lookup_visited palette hids (List.mem_append_right _ List.mem_cons_self)
  rw [← Option.not_isSome_iff_eq_none, hset, hbare]
  exact fun h => h.elim (not_mem_before hids) Bool.false_ne_true

/-- What a link finds around it: the colors of the links before it and of those that are colored by
themselves, as far as they meet it. -/
theorem mem_near_visited_iff (hids : ((before ++ later :: after).map (·.id)).Nodup) :
    color ∈ (visited palette before (later :: after)).near (before ++ later :: after) later ↔
      ∃ link ∈ before ++ later :: after, (link ∈ before ∨ link.isColored = true) ∧
        meet link later = true ∧
        (assign palette (before ++ later :: after)).lookup link.id = some color := by
  simp only [near, List.mem_filterMap, List.mem_filter]
  constructor
  · intro h
    obtain ⟨link, ⟨hm, hmeet⟩, hcolor⟩ := h
    have hsome := isSome_lookup_visited palette hids hm
    exact ⟨link, hm, hsome.mp (by rw [hcolor]; rfl), hmeet, lookup_assign_of_visited hcolor⟩
  · intro h
    obtain ⟨link, hm, hset, hmeet, hcolor⟩ := h
    have hsome := (isSome_lookup_visited palette hids hm).mpr hset
    obtain ⟨own, hown⟩ := Option.isSome_iff_exists.mp hsome
    obtain rfl : own = color := Option.some.inj ((lookup_assign_of_visited hown).symm.trans hcolor)
    exact ⟨link, ⟨hm, hmeet⟩, hown⟩

theorem mem_near_visited_iff_of_bare (hids : ((before ++ later :: after).map (·.id)).Nodup)
    (hbare : ∀ link ∈ before ++ later :: after, link.isColored = false) :
    color ∈ (visited palette before (later :: after)).near (before ++ later :: after) later ↔
      ∃ link ∈ before, meet link later = true ∧
        (assign palette (before ++ later :: after)).lookup link.id = some color := by
  rw [mem_near_visited_iff hids]
  constructor
  · intro h
    obtain ⟨link, hm, hset, hl⟩ := h
    rw [hbare link hm] at hset
    exact ⟨link, hset.resolve_right Bool.false_ne_true, hl⟩
  · intro h
    obtain ⟨link, hm, hl⟩ := h
    exact ⟨link, List.mem_append_left _ hm, Or.inl hm, hl⟩

theorem lookup_assign_later (palette : Palette)
    (hids : ((before ++ later :: after).map (·.id)).Nodup) (hbare : later.isColored = false) :
    (assign palette (before ++ later :: after)).lookup later.id =
      some (choose palette
        ((visited palette before (later :: after)).near (before ++ later :: after) later)
        before.length) := by
  rw [assign_eq]
  exact lookup_foldl_of_some
    (lookup_give_self (later, before.length) (lookup_visited_later palette hids hbare)) _

end Order

section Degrees

variable {before after : List Link} {earlier later : Link}

def degree (links : List Link) (id : String) : Nat := links.countP (·.touches id)

/-- Every color of the palette is on a link that stands before another one and meets it. -/
def Exhausted (palette : Palette) (colors : Coloring) (before : List Link) (later : Link) : Prop :=
  ∀ color ∈ palette, ∃ link ∈ before, meet link later = true ∧ colors.lookup link.id = some color

theorem meet_of_touches {a b : Link} (ha : a.touches id = true) (hb : b.touches id = true) :
    meet a b = true := by
  simp only [Link.touches, Bool.or_eq_true, beq_iff_eq] at hb
  rw [meet, Bool.or_eq_true]
  rcases hb with rfl | rfl
  · exact Or.inl ha
  · exact Or.inr ha

theorem countP_meet_le (before : List Link) (later : Link) :
    before.countP (meet · later) ≤ degree before later.source + degree before later.target := by
  induction before with
  | nil => exact Nat.zero_le _
  | cons link before ih =>
    have hone : (if meet link later then 1 else 0) ≤
        (if link.touches later.source then 1 else 0) +
          if link.touches later.target then 1 else 0 := by
      rw [meet]
      cases link.touches later.source <;> cases link.touches later.target <;> decide
    simp only [degree, List.countP_cons] at ih ⊢
    omega

/-- Links that carry all colors of the palette are as many as it has colors. -/
theorem length_le_countP (hdistinct : palette.Nodup) (colors : Coloring) (links : List Link)
    {p : Link → Bool}
    (h : ∀ color ∈ palette, ∃ link ∈ links, p link = true ∧ colors.lookup link.id = some color) :
    palette.length ≤ links.countP p := by
  have hsub : palette ⊆ (links.filter p).filterMap fun link => colors.lookup link.id := by
    intro color hm
    obtain ⟨link, hl, hp, hcolor⟩ := h color hm
    exact List.mem_filterMap.mpr ⟨link, List.mem_filter.mpr ⟨hl, hp⟩, hcolor⟩
  have hlength := (hdistinct.subperm hsub).length_le
  rw [List.countP_eq_length_filter]
  exact Nat.le_trans hlength (List.length_filterMap_le _ _)

theorem Exhausted.length_le (hdistinct : palette.Nodup)
    (h : Exhausted palette colors before later) :
    palette.length ≤ before.countP (meet · later) :=
  length_le_countP hdistinct colors before h

theorem Exhausted.degrees (hdistinct : palette.Nodup) (h : Exhausted palette colors before later) :
    palette.length + 2 ≤ degree (before ++ later :: after) later.source +
      degree (before ++ later :: after) later.target := by
  have hmany := h.length_le hdistinct
  have hmeet := countP_meet_le before later
  have hsource : later.touches later.source = true := by simp [Link.touches]
  have htarget : later.touches later.target = true := by simp [Link.touches]
  simp only [degree, List.countP_append, List.countP_cons, hsource, htarget, if_true] at hmeet ⊢
  omega

/-- Two links that touch one node get the same color exactly if the palette is exhausted around the
later one and the earlier one has the color at its index counted round the palette. For this the two
ends of the later link together must be touched by more links than the palette has colors. -/
theorem sameColor_iff_exhausted (hpalette : palette ≠ []) (hdistinct : palette.Nodup)
    (hids : ((before ++ later :: after).map (·.id)).Nodup)
    (hbare : ∀ link ∈ before ++ later :: after, link.isColored = false)
    (hearlier : earlier ∈ before) (htouch : earlier.touches id = true)
    (htouch' : later.touches id = true) :
    let links := before ++ later :: after
    let colors := assign palette links
    ∃ color color', colors.lookup earlier.id = some color ∧ colors.lookup later.id = some color' ∧
      (color = color' ↔ Exhausted palette colors before later ∧
        palette[before.length % palette.length]? = some color) ∧
      (degree links later.source + degree links later.target ≤ palette.length + 1 →
        color ≠ color') := by
  intro links colors
  have hmeet := meet_of_touches htouch htouch'
  obtain ⟨color, hcolor⟩ := exists_lookup_assign palette (List.mem_append_left _ hearlier)
  let used := (visited palette before (later :: after)).near links later
  have hchosen : colors.lookup later.id = some (choose palette used before.length) :=
    lookup_assign_later palette hids (hbare later (by simp))
  have hmem {c : String} : c ∈ used ↔
      ∃ link ∈ before, meet link later = true ∧ colors.lookup link.id = some c :=
    mem_near_visited_iff_of_bare hids hbare
  have hused : color ∈ used := hmem.mpr ⟨earlier, hearlier, hmeet, hcolor⟩
  have hiff := eq_choose_iff hpalette hused before.length
  have hexhausted : (∀ c ∈ palette, c ∈ used) ↔ Exhausted palette colors before later :=
    forall₂_congr fun _ _ => hmem
  rw [hexhausted] at hiff
  refine ⟨color, choose palette used before.length, hcolor, hchosen, hiff, fun hfew he => ?_⟩
  have hmany : palette.length + 2 ≤ degree links later.source + degree links later.target :=
    (hiff.mp he).1.degrees hdistinct
  omega

end Degrees

section Path

/-- Links from one end of a path and from the other. -/
def outerLinks : List Link :=
  [{ id := "link-1", source := "a", target := "b" },
    { id := "link-2", source := "d", target := "e" },
   { id := "link-3", source := "c", target := "d" }]

/-- The link that joins both parts of the path. -/
def joiningLink : Link := { id := "link-4", source := "b", target := "c" }

def twoColors : Palette := ["red", "blue"]

theorem sameColor_iff_exhausted_path :
    let links := outerLinks ++ [joiningLink]
    let colors := assign twoColors links
    let earlier : Link := { id := "link-3", source := "c", target := "d" }
    (twoColors ≠ [] ∧ twoColors.Nodup ∧ (links.map (·.id)).Nodup ∧
      (∀ link ∈ links, link.isColored = false) ∧ earlier ∈ outerLinks ∧
      earlier.touches "c" = true ∧ joiningLink.touches "c" = true) ∧
    ∃ color color', colors.lookup earlier.id = some color ∧
    colors.lookup joiningLink.id = some color' ∧
      (color = color' ↔ Exhausted twoColors colors outerLinks joiningLink ∧
        twoColors[outerLinks.length % twoColors.length]? = some color) ∧
      (degree links joiningLink.source + degree links joiningLink.target ≤ twoColors.length + 1 →
        color ≠ color') := by
  intro links colors earlier
  have hpalette : twoColors ≠ [] := by decide
  have hdistinct : twoColors.Nodup := by decide
  have hids : (links.map (·.id)).Nodup := by decide
  have hbare : ∀ link ∈ links, link.isColored = false := by decide
  have hearlier : earlier ∈ outerLinks := by decide
  have htouch : earlier.touches "c" = true := by decide
  have htouch' : joiningLink.touches "c" = true := by decide
  exact ⟨⟨hpalette, hdistinct, hids, hbare, hearlier, htouch, htouch'⟩,
    sameColor_iff_exhausted hpalette hdistinct hids hbare hearlier htouch htouch'⟩

/-- Red and blue in turn along the path. -/
def inTurn (link : Link) : String :=
  if link.id = "link-1" ∨ link.id = "link-3" then "red" else "blue"

/-- It is not enough that the palette has a color for every link at a node. On the path the palette
is exhausted around the last link by one link at each of its ends, and no node has more than two
links. Red and blue in turn along the path would do. -/
theorem degree_bound_insufficient :
    let path := outerLinks ++ [joiningLink]
    (∀ a ∈ path, inTurn a ∈ twoColors ∧ ∀ b ∈ path, a ≠ b → meet a b = true → inTurn a ≠ inTurn b) ∧
    ¬∀ (palette : Palette) (links : List Link), palette ≠ [] → palette.Nodup →
    (links.map (·.id)).Nodup →
      (∀ link ∈ links, link.isColored = false) → ∀ a ∈ links, ∀ b ∈ links, a ≠ b →
      ∀ id, a.touches id = true → b.touches id = true → degree links id ≤ palette.length →
        (assign palette links).lookup a.id ≠ (assign palette links).lookup b.id := by
  intro path
  constructor
  · decide
  · intro h
    have hdiffer := h twoColors path (by decide) (by decide) (by decide) (by decide)
      { id := "link-3", source := "c", target := "d" } (by decide) joiningLink
        (by decide) (by decide)
      "c" (by decide) (by decide) (by decide)
    exact hdiffer (by decide)

end Path

end ArchDiagram.Coloring
