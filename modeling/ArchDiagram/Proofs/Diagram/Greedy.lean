import ArchDiagram.Proofs.Diagram.Incidence

namespace ArchDiagram

namespace Coloring

variable {α : Type} {palette : Palette} {links before after : List Link} {link later : Link}
  {colors : Coloring} {color other : String}

section Keys

/-- The ids that have a color: none twice, and only those of links. -/
structure Keyed (links : List Link) (colors : Coloring) : Prop where
  nodup : (colors.map Prod.fst).Nodup
  subset : colors.map Prod.fst ⊆ links.map (·.id)

theorem lookup_eq_none_iff {id : String} : colors.lookup id = none ↔ id ∉ colors.map Prod.fst := by
  simp only [List.lookup_eq_none_iff, List.mem_map, bne_iff_ne, not_exists, not_and]
  exact forall₂_congr fun entry _ => ne_comm

theorem keyed_ofLinks (hids : (links.map (·.id)).Nodup) : Keyed links (ofLinks links) := by
  have hkeys : ((ofLinks links).map Prod.fst).reverse.Sublist (links.map (·.id)) := by
    rw [ofLinks, ← List.map_reverse, List.reverse_reverse, List.map_filterMap]
    have hown : ((links.filter (·.isColored)).filterMap fun link =>
        (link.style.color.map fun color => (link.id, color)).map Prod.fst).Sublist
          ((links.filter (·.isColored)).map (·.id)) := by
      induction links.filter (·.isColored) with
      | nil => exact .slnil
      | cons link rest ih =>
        cases hcolor : link.style.color with
        | none => simpa [hcolor] using ih.cons link.id
        | some color => simpa [hcolor] using ih
    exact hown.trans (List.filter_sublist.map _)
  exact ⟨List.nodup_reverse.mp (hkeys.nodup hids),
    fun id hm => hkeys.subset (List.mem_reverse.mpr hm)⟩

theorem Keyed.give (h : Keyed links colors) {item : Link × Nat} (hm : item.1 ∈ links) :
    Keyed links (give palette links colors item) := by
  rw [Coloring.give]
  split_ifs with hgiven
  · exact h
  · rw [Option.not_isSome_iff_eq_none, lookup_eq_none_iff] at hgiven
    refine ⟨List.nodup_cons.mpr ⟨hgiven, h.nodup⟩, ?_⟩
    rw [List.map_cons, List.cons_subset]
    exact ⟨List.mem_map_of_mem hm, h.subset⟩

theorem Keyed.foldl (h : Keyed links colors) (items : List (Link × Nat))
    (hm : ∀ item ∈ items, item.1 ∈ links) :
    Keyed links (items.foldl (Coloring.give palette links) colors) := by
  induction items generalizing colors with
  | nil => exact h
  | cons item items ih =>
    rw [List.forall_mem_cons] at hm
    exact ih (h.give hm.1) hm.2

theorem keyed_assign (palette : Palette) (hids : (links.map (·.id)).Nodup) :
    Keyed links (assign palette links) := by
  apply (keyed_ofLinks hids).foldl
  intro item hm
  exact (List.mem_zipIdx hm).2.2 ▸ List.getElem_mem _

/-- The ids that have a color are those of the links, each once. -/
theorem keys_perm (palette : Palette) (hids : (links.map (·.id)).Nodup) :
    ((assign palette links).map Prod.fst).Perm (links.map (·.id)) := by
  have hkeyed := keyed_assign palette hids
  rw [List.perm_ext_iff_of_nodup hkeyed.nodup hids]
  intro id
  refine ⟨fun hm => hkeyed.subset hm, fun hm => ?_⟩
  obtain ⟨link, hl, rfl⟩ := List.mem_map.mp hm
  obtain ⟨color, hcolor⟩ := exists_lookup_assign palette hl
  by_contra hnone
  rw [lookup_eq_none_iff.mpr hnone] at hcolor
  contradiction

end Keys

section Own

theorem lookup_ofLinks (hids : (links.map (·.id)).Nodup) (hm : link ∈ links)
    (hcolored : link.isColored = true) :
    (ofLinks links).lookup link.id = link.style.color := by
  have hsome := isSome_lookup_ofLinks.mpr ⟨link, hm, hcolored, rfl⟩
  obtain ⟨color, hcolor⟩ := Option.isSome_iff_exists.mp hsome
  obtain ⟨front, back, he, -⟩ := List.lookup_eq_some_iff.mp hcolor
  have hentry : (link.id, color) ∈ ofLinks links := by simp [he]
  rw [ofLinks, List.mem_reverse, List.mem_filterMap] at hentry
  obtain ⟨owner, ho, hown⟩ := hentry
  obtain ⟨own, hc, hpair⟩ := Option.map_eq_some_iff.mp hown
  rw [Prod.mk.injEq] at hpair
  have hsame : owner = link := List.inj_on_of_nodup_map hids (List.mem_filter.mp ho).1 hm hpair.1
  rw [hcolor, ← hsame, hc, hpair.2]

/-- A link that is colored by itself keeps its color. -/
theorem lookup_assign_own (palette : Palette) (hids : (links.map (·.id)).Nodup)
    (hm : link ∈ links) (hcolored : link.isColored = true) :
    (assign palette links).lookup link.id = link.style.color := by
  have hown := lookup_ofLinks hids hm hcolored
  obtain ⟨color, hc, -⟩ := (Option.any_eq_true _ _).mp hcolored
  rw [hc] at hown ⊢
  exact lookup_foldl_of_some hown _

end Own

section Picking

/-- Some link that meets `later` carries the color and had it when `later` was visited: it stands
before, or it is colored by itself. -/
def Carried (colors : Coloring) (links before : List Link) (later : Link) (color : String) : Prop :=
  ∃ link ∈ links, (link ∈ before ∨ link.isColored = true) ∧ meet link later = true ∧
    colors.lookup link.id = some color

/-- The color for a link at an index where some colors are used: the first that is not, else the one
at the index counted round the palette, else the default color. -/
inductive Picked (palette : Palette) (used : String → Prop) (index : Nat) : String → Prop
  | first {front back : Palette} {color : String} (split : palette = front ++ color :: back)
      (taken : ∀ other ∈ front, used other) (free : ¬used color) : Picked palette used index color
  | again {color : String} (taken : ∀ other ∈ palette, used other)
      (place : palette[index % palette.length]? = some color) : Picked palette used index color
  | plain (empty : palette = []) : Picked palette used index Link.defaultColor

variable {used used' : String → Prop} {index : Nat}

/-- More used colors do not change the choice unless the chosen color is one of them. -/
theorem Picked.mono (h : Picked palette used index color)
    (hmore : ∀ other, used other → used' other) (hchosen : used' color → used color) :
    Picked palette used' index color := by
  cases h with
  | first split taken free =>
    exact .first split (fun other hm => hmore other (taken other hm)) (mt hchosen free)
  | again taken place => exact .again (fun other hm => hmore other (taken other hm)) place
  | plain empty => exact .plain empty

theorem Picked.eq_first (h : Picked palette used index color) {front back : Palette}
    (split : palette = front ++ other :: back) (taken : ∀ c ∈ front, used c) (free : ¬used other) :
    color = other := by
  cases h with
  | first split' taken' free' =>
    rw [split] at split'
    rcases List.append_eq_append_iff.mp split' with ⟨mid, rfl, hmid⟩ | ⟨mid, rfl, hmid⟩
    · cases mid with
      | nil => exact (List.cons.inj hmid).1.symm
      | cons c mid =>
        rw [List.cons_append, List.cons.injEq] at hmid
        exact absurd (taken' c (by simp)) (hmid.1 ▸ free)
    · cases mid with
      | nil => exact (List.cons.inj hmid).1
      | cons c mid =>
        rw [List.cons_append, List.cons.injEq] at hmid
        exact absurd (taken c (by simp)) (hmid.1 ▸ free')
  | again taken' => exact absurd (taken' other (by simp [split])) free
  | plain empty => simp [empty] at split

theorem Picked.unique (h : Picked palette used index color) (h' : Picked palette used index other) :
    color = other := by
  cases h' with
  | first split taken free => exact h.eq_first split taken free
  | again taken place =>
    cases h with
    | first split taken' free => exact absurd (taken color (by simp [split])) free
    | again taken' place' => exact Option.some.inj (place'.symm.trans place)
    | plain empty => simp [empty] at place
  | plain empty =>
    cases h with
    | first split taken free => simp [empty] at split
    | again taken place => simp [empty] at place
    | plain empty' => rfl

theorem Picked.free (h : Picked palette used index color) (hfree : ∃ other ∈ palette, ¬used other) :
    color ∈ palette ∧ ¬used color := by
  obtain ⟨other, hm, hunused⟩ := hfree
  cases h with
  | first split taken free => exact ⟨by simp [split], free⟩
  | again taken => exact absurd (taken other hm) hunused
  | plain empty => simp [empty] at hm

/-- A color that is not used is the first such one. -/
theorem Picked.exists_split (h : Picked palette used index color) (hnone : palette ≠ [])
    (hfree : ¬used color) :
    ∃ front back, palette = front ++ color :: back ∧ ∀ other ∈ front, used other := by
  cases h with
  | @first front back color split taken => exact ⟨front, back, split, taken⟩
  | again taken place => exact absurd (taken color (List.mem_of_getElem? place)) hfree
  | plain empty => exact absurd empty hnone

theorem picked_choose (palette : Palette) {used : List String}
    (hused : ∀ color, color ∈ used ↔ used' color) (index : Nat) :
    Picked palette used' index (choose palette used index) := by
  cases hfind : palette.find? (!used.contains ·) with
  | some color =>
    have hchosen : choose palette used index = color := by rw [choose, hfind]; rfl
    obtain ⟨hfree, front, back, split, hfront⟩ := List.find?_eq_some_iff_append.mp hfind
    rw [hchosen]
    refine .first split ?_ ?_
    · intro other hm
      have htaken := hfront other hm
      simp only [List.contains_eq_mem, Bool.not_not, decide_eq_true_eq] at htaken
      exact (hused other).mp htaken
    · rw [← hused]
      simpa using hfree
  | none =>
    have htaken : ∀ other ∈ palette, other ∈ used := by
      intro other hm
      have hall := List.find?_eq_none.mp hfind other hm
      simpa using hall
    by_cases hempty : palette = []
    · subst hempty
      exact .plain rfl
    · exact .again (fun other hm => (hused other).mp (htaken other hm))
        (choose_of_exhausted hempty htaken index)

end Picking

section Run

/-- Colors as a choice in the order of the links gives them. -/
structure Greedy (palette : Palette) (links : List Link) (colors : Coloring) : Prop where
  /-- Each link has a color, and none has two. -/
  once : (colors.map Prod.fst).Perm (links.map (·.id))
  own : ∀ link ∈ links, link.isColored = true → colors.lookup link.id = link.style.color
  picked : ∀ before later after, links = before ++ later :: after → later.isColored = false →
    ∃ color, colors.lookup later.id = some color ∧
      Picked palette (Carried colors links before later) before.length color

theorem greedy_assign (palette : Palette) (hids : (links.map (·.id)).Nodup) :
    Greedy palette links (assign palette links) where
  once := keys_perm palette hids
  own _ hm hcolored := lookup_assign_own palette hids hm hcolored
  picked before later after he hbare := by
    subst he
    refine ⟨_, lookup_assign_later palette hids hbare, picked_choose palette ?_ before.length⟩
    exact fun color => mem_near_visited_iff hids

theorem greedy_assignAround (palette : Palette) (nodes : List (Node α))
    (hids : (links.map (·.id)).Nodup) :
    Greedy palette links (assignAround palette nodes links) := by
  rw [assignAround_eq]
  exact greedy_assign palette hids

theorem Greedy.exists_lookup (h : Greedy palette links colors) (hm : link ∈ links) :
    ∃ color, colors.lookup link.id = some color := by
  have hkey := h.once.mem_iff.mpr (List.mem_map_of_mem hm)
  rw [← Option.isSome_iff_exists, ← Option.ne_none_iff_isSome, ne_eq, lookup_eq_none_iff]
  exact not_not.mpr hkey

end Run

section Apart

/-- How many other links share an endpoint with a link. -/
def neighbors (links : List Link) (link : Link) : Nat :=
  links.countP fun other => other ≠ link && meet other link

theorem meet_comm (a b : Link) : meet a b = meet b a := by
  rw [Bool.eq_iff_iff]
  simp only [meet, Link.touches, Bool.or_eq_true, beq_iff_eq]
  constructor <;> rintro ((h | h) | (h | h)) <;> simp [h]

theorem ne_of_set (hids : ((before ++ later :: after).map (·.id)).Nodup)
    (hbare : later.isColored = false) (hset : link ∈ before ∨ link.isColored = true) :
    link ≠ later := by
  rintro rfl
  rw [hbare] at hset
  exact hset.elim (not_mem_before hids) Bool.false_ne_true

/-- Fewer neighbors than colors leave a color free. -/
theorem exists_not_carried (colors : Coloring) (hdistinct : palette.Nodup)
    (hids : ((before ++ later :: after).map (·.id)).Nodup) (hbare : later.isColored = false)
    (hroom : neighbors (before ++ later :: after) later < palette.length) :
    ∃ color ∈ palette, ¬Carried colors (before ++ later :: after) before later color := by
  by_contra hfull
  push Not at hfull
  have hmany : palette.length ≤ neighbors (before ++ later :: after) later := by
    apply length_le_countP hdistinct colors
    intro color hm
    obtain ⟨link, hl, hset, hmeet, hcolor⟩ := hfull color hm
    have hother : link ≠ later := ne_of_set hids hbare hset
    exact ⟨link, hl, by simp [hother, hmeet], hcolor⟩
  omega

variable {earlier : Link}

/-- A link differs from one that had its color before, if a color was free. -/
theorem Greedy.ne_of_set (h : Greedy palette (before ++ later :: after) colors)
    (hbare : later.isColored = false)
    (hfree : ∃ color ∈ palette, ¬Carried colors (before ++ later :: after) before later color)
    (hm : earlier ∈ before ++ later :: after) (hset : earlier ∈ before ∨ earlier.isColored = true)
    (hmeet : meet earlier later = true) : colors.lookup earlier.id ≠ colors.lookup later.id := by
  obtain ⟨color, hcolor, hpicked⟩ := h.picked before later after rfl hbare
  intro he
  exact (hpicked.free hfree).2 ⟨earlier, hm, hset, hmeet, he.trans hcolor⟩

theorem exists_before {a b : Link} (ha : a ∈ links) (hb : b ∈ links) (hne : a ≠ b) :
    (∃ before after, links = before ++ b :: after ∧ a ∈ before) ∨
      ∃ before after, links = before ++ a :: after ∧ b ∈ before := by
  obtain ⟨before, after, rfl⟩ := List.append_of_mem hb
  rcases List.mem_append.mp ha with hbefore | hrest
  · exact Or.inl ⟨before, after, rfl, hbefore⟩
  · have hafter := (List.mem_cons.mp hrest).resolve_left hne
    obtain ⟨between, after, rfl⟩ := List.append_of_mem hafter
    exact Or.inr ⟨before ++ b :: between, after, by simp, by simp⟩

/-- With a color for each neighbor and one more, links that share an endpoint differ, unless both
had their colors from the start. -/
theorem Greedy.apart (h : Greedy palette links colors) (hids : (links.map (·.id)).Nodup)
    (hdistinct : palette.Nodup)
    (hroom : ∀ link ∈ links, link.isColored = false → neighbors links link < palette.length)
    {a b : Link} (ha : a ∈ links) (hb : b ∈ links) (hne : a ≠ b) (hmeet : meet a b = true)
    (hbare : a.isColored = false ∨ b.isColored = false) :
    colors.lookup a.id ≠ colors.lookup b.id := by
  -- of the two, `later` has to be one without a color that finds the color of the other one used
  have hlater {before after : List Link} {earlier later : Link}
    (he : links = before ++ later :: after)
      (hlink : later.isColored = false) (hm : earlier ∈ links)
      (hset : earlier ∈ before ∨ earlier.isColored = true) (hshare : meet earlier later = true) :
      colors.lookup earlier.id ≠ colors.lookup later.id := by
    subst he
    have hfree := exists_not_carried colors hdistinct hids hlink (hroom later (by simp) hlink)
    exact h.ne_of_set hlink hfree hm hset hshare
  have hmeet' : meet b a = true := meet_comm a b ▸ hmeet
  cases hca : a.isColored with
  | true =>
    have hcb : b.isColored = false := hbare.resolve_left (by simp [hca])
    obtain ⟨before, after, he⟩ := List.append_of_mem hb
    exact hlater he hcb ha (Or.inr hca) hmeet
  | false =>
    cases hcb : b.isColored with
    | true =>
      obtain ⟨before, after, he⟩ := List.append_of_mem ha
      exact (hlater he hca hb (Or.inr hcb) hmeet').symm
    | false =>
      rcases exists_before ha hb hne with ⟨before, after, he, hm⟩ | ⟨before, after, he, hm⟩
      · exact hlater he hcb ha (Or.inl hm) hmeet
      · exact (hlater he hca hb (Or.inl hm) hmeet').symm

/-- The colors are a greedy choice, whatever the nodes are. If the palette has more colors than any
link without a color has neighbors, links that share an endpoint differ as far as one of them was
given its color. -/
theorem assignAround_greedy (palette : Palette) (nodes : List (Node α))
    (hids : (links.map (·.id)).Nodup) :
    let colors := assignAround palette nodes links
    Greedy palette links colors ∧
      (∀ nodes' : List (Node α), assignAround palette nodes' links = colors) ∧
      (palette.Nodup →
        (∀ link ∈ links, link.isColored = false → neighbors links link < palette.length) →
        ∀ a ∈ links, ∀ b ∈ links, a ≠ b → meet a b = true →
        (a.isColored = false ∨ b.isColored = false) →
          ∃ color color', colors.lookup a.id = some color ∧ colors.lookup b.id = some color' ∧
            color ≠ color') := by
  intro colors
  have hgreedy : Greedy palette links colors := greedy_assignAround palette nodes hids
  have hnodes (nodes' : List (Node α)) : assignAround palette nodes' links = colors :=
    (assignAround_eq palette nodes' links).trans (assignAround_eq palette nodes links).symm
  refine ⟨hgreedy, hnodes, ?_⟩
  intro hdistinct hroom a ha b hb hne hmeet hbare
  obtain ⟨color, hcolor⟩ := hgreedy.exists_lookup ha
  obtain ⟨color', hcolor'⟩ := hgreedy.exists_lookup hb
  have hapart := hgreedy.apart hids hdistinct hroom ha hb hne hmeet hbare
  exact ⟨color, color', hcolor, hcolor', fun he => hapart (by rw [hcolor, hcolor', he])⟩

end Apart

section Yard

/-- A loop, two parallel links, and a colored link to a node that no drawing needs to list. -/
def yardLinks : List Link :=
  [{ id := "link-1", source := "gate", target := "shed" },
    { id := "link-2", source := "gate", target := "gate" },
   { id := "link-3", source := "shed", target := "gate" },
   { id := "link-4", source := "shed", target := "road", style := { color := some "blue" } }]

def yardPalette : Palette := ["blue", "red", "green", "amber"]

theorem assignAround_greedy_yard :
    let gate : Node Int :=
      { id := "gate", label := "Gate", icon := .service, x := 0, y := 0, width := 1, height := 1 }
    let colors := assignAround yardPalette [gate] yardLinks
    ((yardLinks.map (·.id)).Nodup ∧ yardPalette.Nodup ∧
      ∀ link ∈ yardLinks, link.isColored = false → neighbors yardLinks link < yardPalette.length) ∧
    Greedy yardPalette yardLinks colors ∧
      (∀ nodes' : List (Node Int), assignAround yardPalette nodes' yardLinks = colors) ∧
      ∀ a ∈ yardLinks, ∀ b ∈ yardLinks, a ≠ b → meet a b = true →
      (a.isColored = false ∨ b.isColored = false) →
        ∃ color color', colors.lookup a.id = some color ∧ colors.lookup b.id = some color' ∧
        color ≠ color' := by
  intro gate colors
  have hids : (yardLinks.map (·.id)).Nodup := by decide
  have hdistinct : yardPalette.Nodup := by decide
  have hroom : ∀ link ∈ yardLinks, link.isColored = false →
      neighbors yardLinks link < yardPalette.length := by
    decide
  obtain ⟨hgreedy, hnodes, hapart⟩ := assignAround_greedy yardPalette [gate] hids
  exact ⟨⟨hids, hdistinct, hroom⟩, hgreedy, hnodes, hapart hdistinct hroom⟩

end Yard

end Coloring

end ArchDiagram
