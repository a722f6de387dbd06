import Mathlib.Data.List.Induction
import ArchDiagram.Proofs.Prompt.Entity

namespace ArchDiagram.Prompt

/-- The identifier itself or, where that is taken, the one with the smallest suffix from `_2` on
that is free. It is found within one more try than there are identifiers taken. -/
def IsFresh (taken : List String) (base id : String) : Prop :=
  (base ∉ taken ∧ id = base) ∨
    (base ∈ taken ∧ ∃ k : Nat, 2 ≤ k ∧ k ≤ taken.length + 2 ∧
      id = base ++ "_" ++ toString k ∧ id ∉ taken ∧
      ∀ j : Nat, 2 ≤ j → j < k → base ++ "_" ++ toString j ∈ taken)

/-- Made of letters `a` to `z`, digits and underscores, at least one. -/
def IsSlug (id : String) : Prop :=
  id.toList ≠ [] ∧ ∀ c ∈ id.toList, Text.isSlugChar c = true

def slugOf (name : String) : String := String.ofList (Text.slug name.toList)

section FreshIds

variable (taken : List String) (base : String)

theorem isFresh_freshId : IsFresh taken base (freshId taken base) := by
  have hfree := freshId_not_mem taken base
  rw [freshId_eq] at hfree ⊢
  by_cases hbase : base ∈ taken
  · rw [if_pos (by simpa using hbase)] at hfree ⊢
    obtain ⟨id, hid, hnew⟩ := exists_free_suffix taken base
    have hsome : ((suffixed taken base).find? (!taken.contains ·)).isSome :=
      List.find?_isSome.mpr ⟨id, hid, by simpa using hnew⟩
    obtain ⟨found, hfound⟩ := Option.isSome_iff_exists.mp hsome
    rw [hfound, Option.getD_some] at hfree ⊢
    obtain ⟨-, i, hi, hat, hearlier⟩ := List.find?_eq_some_iff_getElem.mp hfound
    have hlt : i < taken.length + 1 := by simpa [suffixed] using hi
    have hat : base ++ "_" ++ toString (i + 2) = found := by simpa [suffixed] using hat
    refine Or.inr ⟨hbase, i + 2, by omega, by omega, hat.symm, hfree, fun j htwo hj => ?_⟩
    have htaken : base ++ "_" ++ toString (j - 2 + 2) ∈ taken := by
      simpa [suffixed] using hearlier (j - 2) (by omega)
    rwa [Nat.sub_add_cancel htwo] at htaken
  · rw [if_neg (by simpa using hbase)]
    exact Or.inl ⟨hbase, rfl⟩

theorem isSlug_slugOf (name : String) : IsSlug (slugOf name) := by
  rw [IsSlug, slugOf, String.toList_ofList]
  exact ⟨Text.slug_ne_nil _, fun c hc => Text.mem_slug hc⟩

variable {taken base}

theorem IsFresh.isSlug {id : String} (h : IsFresh taken base id) (hbase : IsSlug base) :
    IsSlug id := by
  rcases h with ⟨-, rfl⟩ | ⟨-, k, -, -, rfl, -⟩
  · exact hbase
  · refine ⟨by simp, forall_mem_suffix (by decide) (fun c hc => ?_) hbase.2 k⟩
    simp [Text.isSlugChar, hc]

end FreshIds

/-- What a list of mentions says of a component that has others before it: the icon is that of the
first mention, all mentions are counted, and the id is free among the ids before it. -/
structure IsTally (ms : List Mention) (earlier : List Entity) (e : Entity) : Prop where
  icon : ∃ m, ms.find? (·.name == e.name) = some m ∧ m.icon = e.icon
  mentions : e.mentions = (ms.map (·.name)).count e.name
  id : IsFresh (earlier.map (·.id)) (slugOf e.name) e.id

section Names

variable {β : Type} [BEq β] [LawfulBEq β]

theorem eraseDups_concat_of_mem {xs : List β} {x : β} (h : x ∈ xs) :
    (xs ++ [x]).eraseDups = xs.eraseDups := by
  rw [List.eraseDups_append]
  simp [List.removeAll, h]

theorem eraseDups_concat_of_not_mem {xs : List β} {x : β} (h : x ∉ xs) :
    (xs ++ [x]).eraseDups = xs.eraseDups ++ [x] := by
  rw [List.eraseDups_append]
  simp [List.removeAll, h, List.eraseDups_cons]

theorem nodup_eraseDups (xs : List β) : xs.eraseDups.Nodup := by
  induction xs using List.reverseRecOn with
  | nil => simp
  | append_singleton xs x ih =>
    by_cases h : x ∈ xs
    · rwa [eraseDups_concat_of_mem h]
    · rw [eraseDups_concat_of_not_mem h, ← List.concat_eq_append]
      exact List.Nodup.concat (by simpa using h) ih

end Names

section Tallies

variable {ms : List Mention} {m : Mention} {earlier : List Entity} {e : Entity}

/-- Another mention is counted for the components that have its name. -/
theorem IsTally.counted (h : IsTally ms earlier e) (m : Mention) :
    IsTally (ms ++ [m]) (earlier.map (Entity.counted m)) (e.counted m) := by
  obtain ⟨first, hfirst, hicon⟩ := h.icon
  have hids : (earlier.map (Entity.counted m)).map (·.id) = earlier.map (·.id) := by
    simp [Function.comp_def, counted_id]
  refine ⟨⟨first, ?_, ?_⟩, ?_, ?_⟩
  · rw [counted_name, List.find?_append, hfirst, Option.some_or]
  · rw [hicon, Entity.counted]
    split_ifs <;> rfl
  · rw [counted_name, List.map_append, List.count_append, ← h.mentions, Entity.counted]
    split_ifs with hname
    · simp [hname]
    · simp [Ne.symm hname]
  · rw [hids, counted_name, counted_id]
    exact h.id

/-- A mention of another name changes nothing. -/
theorem IsTally.concat (h : IsTally ms earlier e) (hne : e.name ≠ m.name) :
    IsTally (ms ++ [m]) earlier e := by
  obtain ⟨first, hfirst, hicon⟩ := h.icon
  refine ⟨⟨first, by rw [List.find?_append, hfirst, Option.some_or], hicon⟩, ?_, h.id⟩
  rw [List.map_append, List.count_append, ← h.mentions]
  simp [Ne.symm hne]

theorem isTally_first (hnew : m.name ∉ ms.map (·.name)) (found : List Entity) :
    IsTally (ms ++ [m]) found (Entity.first found m) := by
  have hnone : ms.find? (·.name == m.name) = none := by
    rw [List.find?_eq_none]
    intro other hother
    rw [beq_iff_eq]
    exact fun heq => hnew (heq ▸ List.mem_map_of_mem hother)
  refine ⟨⟨m, ?_, rfl⟩, ?_, isFresh_freshId _ _⟩
  · change (ms ++ [m]).find? (·.name == m.name) = some m
    rw [List.find?_append, hnone, Option.none_or]
    simp
  · change 1 = ((ms ++ [m]).map (·.name)).count m.name
    rw [List.map_append, List.count_append, List.count_eq_zero_of_not_mem hnew]
    simp

end Tallies

section Collections

/-- Components that mentions were collected to. -/
structure Collection (ms : List Mention) (found : List Entity) : Prop where
  names : found.map (·.name) = (ms.map (·.name)).eraseDups.take maxEntities
  tally : ∀ (i : Nat) (e : Entity), found[i]? = some e → IsTally ms (found.take i) e

variable {ms : List Mention} {found : List Entity}

/-- A mention of a name that was found before. -/
theorem Collection.known (h : Collection ms found) {m : Mention}
    (hm : m.name ∈ found.map (·.name)) :
    Collection (ms ++ [m]) (found.map (Entity.counted m)) := by
  have hold : m.name ∈ ms.map (·.name) := by
    rw [h.names] at hm
    exact List.mem_eraseDups.mp (List.mem_of_mem_take hm)
  refine ⟨?_, fun i e he => ?_⟩
  · rw [List.map_append, List.map_singleton, eraseDups_concat_of_mem hold, ← h.names]
    simp [Function.comp_def, counted_name]
  · rw [List.getElem?_map] at he
    obtain ⟨before, hbefore, rfl⟩ := Option.map_eq_some_iff.mp he
    rw [← List.map_take]
    exact (h.tally i before hbefore).counted m

/-- A mention of another name, when there is no room. -/
theorem Collection.full (h : Collection ms found) {m : Mention} (hm : m.name ∉ found.map (·.name))
    (hfull : found.length = maxEntities) : Collection (ms ++ [m]) found := by
  refine ⟨?_, fun i e he => (h.tally i e he).concat fun heq => ?_⟩
  · by_cases hold : m.name ∈ ms.map (·.name)
    · rw [List.map_append, List.map_singleton, eraseDups_concat_of_mem hold, h.names]
    · have hlength := congrArg List.length h.names
      rw [List.length_map, List.length_take, hfull] at hlength
      rw [List.map_append, List.map_singleton, eraseDups_concat_of_not_mem hold,
        List.take_append_of_le_length (by omega), h.names]
  · exact hm (heq ▸ List.mem_map_of_mem (List.mem_of_getElem? he))

/-- A mention of another name, when there is room. -/
theorem Collection.added (h : Collection ms found) {m : Mention}
    (hm : m.name ∉ found.map (·.name)) (hroom : found.length ≠ maxEntities) :
    Collection (ms ++ [m]) (found ++ [Entity.first found m]) := by
  have hlength := congrArg List.length h.names
  rw [List.length_map, List.length_take] at hlength
  have hall : found.map (·.name) = (ms.map (·.name)).eraseDups := by
    rw [h.names, List.take_of_length_le (by omega)]
  have hnew : m.name ∉ ms.map (·.name) := by rwa [hall, List.mem_eraseDups] at hm
  refine ⟨?_, fun i e he => ?_⟩
  · rw [List.map_append, List.map_append, List.map_singleton, List.map_singleton,
      eraseDups_concat_of_not_mem hnew,
      ← hall, List.take_of_length_le
        (by rw [List.length_append, List.length_map, List.length_singleton]; omega)]
    rfl
  · have hi : i < (found ++ [Entity.first found m]).length := (List.getElem?_eq_some_iff.mp he).1
    rw [List.length_append, List.length_singleton] at hi
    rw [List.take_append_of_le_length (by omega)]
    rcases Nat.lt_or_ge i found.length with hlt | hge
    · rw [List.getElem?_append_left hlt] at he
      exact (h.tally i e he).concat fun heq =>
        hm (heq ▸ List.mem_map_of_mem (List.mem_of_getElem? he))
    · obtain rfl : i = found.length := by omega
      rw [List.getElem?_concat_length] at he
      obtain rfl := Option.some.inj he
      rw [List.take_length]
      exact isTally_first hnew found

theorem Collection.collect (h : Collection ms found) (m : Mention) :
    Collection (ms ++ [m]) (Prompt.collect found m) := by
  rw [Prompt.collect]
  split_ifs with hold hfull
  · exact h.known (by simpa using hold)
  · exact h.full (by simpa using hold) hfull
  · exact h.added (by simpa using hold) hfull

theorem collection_entities (ms : List Mention) : Collection ms (entities ms) := by
  induction ms using List.reverseRecOn with
  | nil => exact ⟨rfl, by simp [entities]⟩
  | append_singleton ms m ih =>
    rw [entities, List.foldl_append]
    exact ih.collect m

/-- Components have the names of mentions. -/
theorem mem_names_entities {e : Entity} (h : e ∈ entities ms) : e.name ∈ ms.map (·.name) := by
  have hname : e.name ∈ (entities ms).map (·.name) := List.mem_map_of_mem h
  rw [(collection_entities ms).names] at hname
  exact List.mem_eraseDups.mp (List.mem_of_mem_take hname)

/-- Components are told apart by their names. -/
theorem nodup_names (ms : List Mention) : ((entities ms).map (·.name)).Nodup := by
  rw [(collection_entities ms).names]
  exact (nodup_eraseDups _).sublist (List.take_sublist _ _)

end Collections

/-- There is a component for each of the first names that are mentioned, in this order. It has the
icon of the first mention and the number of all mentions. Its id is the slug of its name, with a
suffix where a component before it has that id, and no two components have the same. -/
theorem entities_of_mentions (ms : List Mention) :
    (entities ms).map (·.name) = (ms.map (·.name)).eraseDups.take 20 ∧
    (∀ (i : Nat) (e : Entity), (entities ms)[i]? = some e →
      (∃ m, ms.find? (·.name == e.name) = some m ∧ m.icon = e.icon) ∧
      e.mentions = (ms.map (·.name)).count e.name ∧
      IsFresh (((entities ms).take i).map (·.id)) (slugOf e.name) e.id) ∧
    ((entities ms).map (·.id)).Nodup ∧
    ∀ e ∈ entities ms, IsSlug e.id := by
  have hall := collection_entities ms
  refine ⟨hall.names, fun i e he => ?_, (collected_entities ms).ids, fun e he => ?_⟩
  · have htally := hall.tally i e he
    exact ⟨htally.icon, htally.mentions, htally.id⟩
  · obtain ⟨i, hi⟩ := List.mem_iff_getElem?.mp he
    exact (hall.tally i e hi).id.isSlug (isSlug_slugOf e.name)

end ArchDiagram.Prompt
