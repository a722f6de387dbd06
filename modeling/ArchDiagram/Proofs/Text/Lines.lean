import Mathlib.Data.List.Basic
import ArchDiagram.Text.Runs

namespace ArchDiagram.Text

variable {β γ : Type}

theorem numbered_map (f : β → γ) (items : List β) :
    numbered (items.map f) = (numbered items).map fun item => (item.1, f item.2) := by
  rw [numbered, numbered, List.zipIdx_map, List.map_map, List.map_map]
  rfl

theorem mem_of_mem_numbered {items : List β} {item : Nat × β} (h : item ∈ numbered items) :
    item.2 ∈ items := by
  obtain ⟨pair, hp, rfl⟩ := List.mem_map.mp h
  exact List.fst_mem_of_mem_zipIdx hp

theorem map_fst_numbered (items : List β) :
    (numbered items).map (·.1) = List.range' 1 items.length := by
  rw [numbered, List.map_map]
  exact List.zipIdx_map_snd 1 items

theorem map_snd_numbered (items : List β) : (numbered items).map (·.2) = items := by
  rw [numbered, List.map_map]
  exact List.zipIdx_map_fst 1 items

/-- Numbers begin with one. -/
theorem mem_numbered_iff {items : List β} {item : Nat × β} :
    item ∈ numbered items ↔ ∃ index, item.1 = index + 1 ∧ items[index]? = some item.2 := by
  obtain ⟨number, x⟩ := item
  simp only [numbered, List.mem_map, Prod.mk.injEq, Prod.exists,
    List.mk_mem_zipIdx_iff_le_and_getElem?_sub]
  constructor
  · intro h
    obtain ⟨y, n, ⟨hn, hy⟩, rfl, rfl⟩ := h
    exact ⟨n - 1, by omega, hy⟩
  · intro h
    obtain ⟨index, rfl, hx⟩ := h
    exact ⟨x, index + 1, ⟨by omega, hx⟩, rfl, rfl⟩

/-- A text up to a line feed is a line, but for a carriage return at its end. -/
theorem lines_append {u : List Char} (h : '\n' ∉ u) (rest : List Char) :
    ∃ raw, lines (u ++ '\n' :: rest) = raw :: lines rest ∧ (u = raw ∨ u = raw ++ ['\r']) := by
  induction u with
  | nil => exact ⟨[], rfl, Or.inl rfl⟩
  | cons c u ih =>
    have hc : '\n' ≠ c := List.ne_of_not_mem_cons h
    have hu : '\n' ∉ u := List.not_mem_of_not_mem_cons h
    obtain ⟨raw, hraw, hends⟩ := ih hu
    by_cases hreturn : c = '\r' ∧ u = []
    · obtain ⟨rfl, rfl⟩ := hreturn
      exact ⟨[], rfl, Or.inr rfl⟩
    · have hline : lines (c :: (u ++ '\n' :: rest)) = (c :: raw) :: lines rest := by
        rw [lines, hraw]
        · intro hm
          obtain rfl := hm
          exact hc rfl
        · intro rest' hm he
          obtain rfl := hm
          cases u with
          | nil => exact hreturn ⟨rfl, rfl⟩
          | cons d u => exact hu (by simp [(List.cons.inj he).1])
      refine ⟨c :: raw, hline, ?_⟩
      rcases hends with rfl | rfl
      · exact Or.inl rfl
      · exact Or.inr rfl

/-- A text without a line feed is one line. -/
theorem lines_of_not_mem {u : List Char} (h : '\n' ∉ u) (hne : u ≠ []) : lines u = [u] := by
  induction u with
  | nil => contradiction
  | cons c u ih =>
    have hc : '\n' ≠ c := List.ne_of_not_mem_cons h
    have hu : '\n' ∉ u := List.not_mem_of_not_mem_cons h
    have hreturn : ∀ rest, c = '\r' → u = '\n' :: rest → False := by
      intro rest _ he
      exact hu (by simp [he])
    rw [lines.eq_4 c u (fun he => hc he.symm) hreturn]
    cases u with
    | nil => rfl
    | cons d u => rw [ih hu (List.cons_ne_nil d u)]

end ArchDiagram.Text
