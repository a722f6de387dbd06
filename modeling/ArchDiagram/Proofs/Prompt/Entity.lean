import Mathlib.Data.List.Perm.Subperm
import Mathlib.Data.List.Nodup
import ArchDiagram.Prompt.Entity
import ArchDiagram.Proofs.Decimal.Digits
import ArchDiagram.Proofs.Text.Slug

namespace ArchDiagram.Prompt

open Source

section FreshIds

variable {taken : List String} {base : String}

/-- The ids that are tried when the identifier itself is taken. -/
def suffixed (taken : List String) (base : String) : List String :=
  (List.range (taken.length + 1)).map fun i => base ++ "_" ++ toString (i + 2)

theorem freshId_eq (taken : List String) (base : String) : freshId taken base =
    if taken.contains base then ((suffixed taken base).find? (!taken.contains ·)).getD
      base else base :=
  rfl

theorem toList_suffix (base : String) (k : Nat) :
    (base ++ "_" ++ toString k).toList = base.toList ++ ['_'] ++ Decimal.digitsOf k := by
  simp [Decimal.digitsOf]

theorem suffix_injective (base : String) :
    Function.Injective fun i : Nat => base ++ "_" ++ toString (i + 2) := by
  intro i j h
  have hlists := congrArg String.toList h
  rw [toList_suffix, toList_suffix] at hlists
  have hnumber := Decimal.digitsOf_injective (List.append_cancel_left hlists)
  omega

/-- What holds of underscores, digits and the characters of an identifier holds of the identifier
with a suffix. -/
theorem forall_mem_suffix {p : Char → Bool} (hmark : p '_' = true)
    (hdigit : ∀ c : Char, c.isDigit = true → p c = true) (hbase : ∀ c ∈ base.toList, p c = true)
    (k : Nat) :
    ∀ c ∈ (base ++ "_" ++ toString k).toList, p c = true := by
  intro c hc
  rw [toList_suffix, List.mem_append, List.mem_append] at hc
  rcases hc with (hc | hc) | hc
  · exact hbase c hc
  · rwa [List.mem_singleton.mp hc]
  · exact hdigit c (Decimal.isDigit_of_mem_digitsOf hc)

/-- There are more suffixes than ids, so that one of them is free. -/
theorem exists_free_suffix (taken : List String) (base : String) :
    ∃ id ∈ suffixed taken base, id ∉ taken := by
  by_contra hnone
  push Not at hnone
  have hnodup : (suffixed taken base).Nodup := List.nodup_range.map (suffix_injective base)
  have hlength := (hnodup.subperm hnone).length_le
  rw [suffixed, List.length_map, List.length_range] at hlength
  omega

theorem freshId_not_mem (taken : List String) (base : String) : freshId taken base ∉ taken := by
  rw [freshId_eq]
  split_ifs with hbase
  · obtain ⟨id, hid, hfree⟩ := exists_free_suffix taken base
    cases hf : (suffixed taken base).find? (!taken.contains ·) with
    | some found => simpa using List.find?_some hf
    | none => simpa [hfree] using List.find?_eq_none.mp hf id hid
  · simpa using hbase

theorem freshId_cases (taken : List String) (base : String) :
    freshId taken base = base ∨ ∃ i, freshId taken base = base ++ "_" ++ toString (i + 2) := by
  rw [freshId_eq]
  split_ifs
  · cases hf : (suffixed taken base).find? (!taken.contains ·) with
    | some found =>
      obtain ⟨i, -, rfl⟩ := List.mem_map.mp (List.mem_of_find?_eq_some hf)
      exact Or.inr ⟨i, rfl⟩
    | none => exact Or.inl rfl
  · exact Or.inl rfl

theorem isId_freshId (taken : List String) (h : IsId base) : IsId (freshId taken base) := by
  rcases freshId_cases taken base with he | ⟨i, he⟩
  · rwa [he]
  · rw [he, IsId]
    refine ⟨by simp, forall_mem_suffix (by decide) (fun c hc => ?_) h.2 (i + 2)⟩
    simp [isIdChar, Char.isAlphanum, hc]

end FreshIds

section Collecting

variable {found : List Entity} {m : Mention}

/-- Components in the course of reading. -/
structure Collected (found : List Entity) : Prop where
  ids : (found.map (·.id)).Nodup
  legal : ∀ e ∈ found, IsId e.id
  few : found.length ≤ maxEntities

/-- What a mention of a component that was found before changes. -/
def Entity.counted (m : Mention) (e : Entity) : Entity :=
  if e.name = m.name then { e with mentions := e.mentions + 1 } else e

theorem counted_id (m : Mention) (e : Entity) : (e.counted m).id = e.id := by
  rw [Entity.counted]
  split_ifs <;> rfl

theorem counted_name (m : Mention) (e : Entity) : (e.counted m).name = e.name := by
  rw [Entity.counted]
  split_ifs <;> rfl

/-- The component that a mention adds. -/
def Entity.first (found : List Entity) (m : Mention) : Entity :=
  ⟨freshId (found.map (·.id)) (String.ofList (Text.slug m.name.toList)), m.name, m.icon, 1⟩

theorem collect_cases (found : List Entity) (m : Mention) :
    collect found m = found.map (Entity.counted m) ∨
      (found.length < maxEntities ∨ maxEntities < found.length) ∧
        collect found m = found ++ [Entity.first found m] ∨
      collect found m = found := by
  rw [collect]
  split_ifs with hold hfull
  · exact Or.inl rfl
  · exact Or.inr (Or.inr rfl)
  · exact Or.inr (Or.inl ⟨Nat.lt_or_gt_of_ne hfull, rfl⟩)

theorem Collected.collect (h : Collected found) (m : Mention) :
    Collected (Prompt.collect found m) := by
  have hfew := h.few
  rcases collect_cases found m with he | ⟨hroom, he⟩ | he
  · rw [he]
    refine ⟨?_, ?_, by simpa using hfew⟩
    · rw [List.map_map]
      simpa [Function.comp_def, counted_id] using h.ids
    · intro e hm
      obtain ⟨before, hb, rfl⟩ := List.mem_map.mp hm
      rw [counted_id]
      exact h.legal before hb
  · rw [he]
    refine ⟨?_, ?_, ?_⟩
    · rw [List.map_append, List.map_singleton, ← List.concat_eq_append]
      exact List.Nodup.concat (freshId_not_mem _ _) h.ids
    · rw [List.forall_mem_append, List.forall_mem_singleton]
      exact ⟨h.legal, isId_freshId _ (Text.isId_slug _)⟩
    · rw [List.length_append, List.length_singleton]
      omega
  · rwa [he]

theorem Collected.foldl (h : Collected found) (mentions : List Mention) :
    Collected (mentions.foldl Prompt.collect found) := by
  induction mentions generalizing found with
  | nil => exact h
  | cons m mentions ih => exact ih (h.collect m)

theorem collected_entities (mentions : List Mention) : Collected (entities mentions) := by
  have hempty : Collected [] := ⟨List.nodup_nil, by simp, Nat.zero_le _⟩
  exact hempty.foldl mentions

end Collecting

end ArchDiagram.Prompt
