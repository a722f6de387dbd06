import Mathlib
import ArchDiagram.Proofs.Text.Runs
import ArchDiagram.Text.Case
import ArchDiagram.Text.Naming

namespace ArchDiagram.Text

section Intercalate

variable {parts : List (List Char)}

theorem mem_intercalate {sep : List Char} {c : Char} (h : c ∈ List.intercalate sep parts) :
    c ∈ sep ∨ ∃ part ∈ parts, c ∈ part := by
  induction parts with
  | nil => simp at h
  | cons part parts ih =>
    by_cases hne : parts = []
    · subst hne
      rw [List.intercalate_singleton] at h
      exact Or.inr ⟨part, by simp, h⟩
    · rw [List.intercalate_cons_of_ne_nil hne, List.mem_append, List.mem_append] at h
      rcases h with (h | h) | h
      · exact Or.inr ⟨part, by simp, h⟩
      · exact Or.inl h
      · rcases ih h with hsep | ⟨other, ho, hc⟩
        · exact Or.inl hsep
        · exact Or.inr ⟨other, by simp [ho], hc⟩

theorem intercalate_ne_nil {sep : List Char} (hne : parts ≠ []) (h : ∀ part ∈ parts, part ≠ []) :
    List.intercalate sep parts ≠ [] := by
  cases parts with
  | nil => contradiction
  | cons part parts =>
    have hpart := h part (by simp)
    by_cases hrest : parts = []
    · subst hrest
      simpa using hpart
    · rw [List.intercalate_cons_of_ne_nil hrest]
      simp [hpart]

theorem length_intercalate (c : Char) (parts : List (List Char)) :
    (List.intercalate [c] parts).length ≤ parts.flatten.length + parts.length := by
  induction parts with
  | nil => simp
  | cons part parts ih =>
    by_cases hne : parts = []
    · subst hne
      simp
    · rw [List.intercalate_cons_of_ne_nil hne]
      simp only [List.length_append, List.length_cons, List.length_nil, List.flatten_cons]
      omega

end Intercalate

section Cases

/-- What holds of every ASCII character is found by trying them. -/
theorem of_ascii {p : Char → Bool} (h : ((List.range 0x80).all fun n => p (Char.ofNat n)) = true)
    {c : Char} (hc : c.toNat < 0x80) : p c = true := by
  have hn := List.all_eq_true.mp h c.toNat (List.mem_range.mpr hc)
  rwa [Char.ofNat_toNat] at hn

/-- No character is moved below the quote mark when its case changes. -/
theorem shiftCase_above {runs : List CaseRun} {c : Char} (hc : 0x22 < c.toNat)
    (h : ∀ run ∈ runs, 0x22 < run.low + run.shift ∧
      (run.high + run.shift < 0xD800 ∨ 0xDFFF < run.low + run.shift ∧
        run.high + run.shift < 0x110000)) :
    0x22 < (shiftCase runs c).toNat := by
  rw [shiftCase]
  cases hf : runs.find? (·.covers c.toNat) with
  | none => exact hc
  | some run =>
    obtain ⟨hlow, hvalid⟩ := h run (List.mem_of_find?_eq_some hf)
    have hcovers := List.find?_some hf
    simp only [CaseRun.covers, Bool.and_eq_true, decide_eq_true_eq] at hcovers
    have hchar : ((c.toNat + run.shift).toNat).isValidChar := by
      rw [Nat.isValidChar]
      omega
    change 0x22 < (Char.ofNat (c.toNat + run.shift).toNat).toNat
    rw [Char.toNat_ofNat, if_pos hchar]
    omega

theorem mem_of_lookup {table : List (Nat × List Nat)} {key : Nat} {value : List Nat}
    (h : table.lookup key = some value) : (key, value) ∈ table := by
  obtain ⟨front, back, rfl, -⟩ := List.lookup_eq_some_iff.mp h
  simp

theorem mem_upperChar {c d : Char} (hc : 0x22 < c.toNat) (h : d ∈ upperChar c) :
    0x22 < d.toNat := by
  rw [upperChar] at h
  split_ifs at h with hlow
  · have hascii := of_ascii (p := fun c => !decide (0x22 < c.toNat) || 0x22 < c.toUpper.toNat)
      (by decide +kernel) hlow
    rw [List.mem_singleton.mp h]
    simpa [hc] using hascii
  · cases hl : upperExpansions.lookup c.toNat with
    | some expansion =>
      have htable : ∀ entry ∈ upperExpansions, ∀ n ∈ entry.2, 0x22 < (Char.ofNat n).toNat := by
        decide +kernel
      rw [hl] at h
      obtain ⟨n, hn, rfl⟩ := List.mem_map.mp h
      exact htable _ (mem_of_lookup hl) n hn
    | none =>
      rw [hl] at h
      rw [List.mem_singleton.mp h]
      exact shiftCase_above hc (by decide +kernel)

theorem length_upperChar (c : Char) : (upperChar c).length ≤ 3 := by
  rw [upperChar]
  split_ifs
  · simp
  · cases hl : upperExpansions.lookup c.toNat with
    | some expansion =>
      have htable : ∀ entry ∈ upperExpansions, entry.2.length ≤ 3 := by decide +kernel
      simpa using htable _ (mem_of_lookup hl)
    | none => simp

theorem length_lowerChar (c : Char) : (lowerChar c).length ≤ 2 := by
  rw [lowerChar]
  split_ifs <;> simp

theorem length_lowerAfter (before s : List Char) : (lowerAfter before s).length ≤ 2 * s.length := by
  induction s generalizing before with
  | nil => simp [lowerAfter]
  | cons c rest ih =>
    have hrest := ih (c :: before)
    have hchar := length_lowerChar c
    have hhere : (if c.toNat = 0x3A3 then
        [Char.ofNat (if reachesCased before && !reachesCased rest then 0x3C2 else 0x3C3)]
        else lowerChar c).length ≤ 2 := by
      split_ifs
      · simp
      · simp
      · exact hchar
    rw [lowerAfter, List.length_append, List.length_cons]
    omega

end Cases

section Titles

/-- A title has spaces and the characters of its words in one case or the other. -/
theorem mem_titleCase {s : List Char} {d : Char} (hs : ∀ c ∈ s, c = ' ' ∨ 0x22 < c.toNat)
    (h : d ∈ titleCase s) : d = ' ' ∨ 0x22 < d.toNat := by
  rcases mem_intercalate h with h | ⟨part, hpart, hd⟩
  · exact Or.inl (List.mem_singleton.mp h)
  · obtain ⟨run, hrun, rfl⟩ := List.mem_map.mp hpart
    obtain ⟨hne, hchars⟩ := mem_runs hrun
    cases run with
    | nil => contradiction
    | cons c rest =>
      rcases List.mem_append.mp hd with hd | hd
      · obtain ⟨hc, hword⟩ := hchars c (by simp)
        rcases hs c hc with rfl | hc
        · exact absurd hword (by decide)
        · exact Or.inr (mem_upperChar hc hd)
      · exact hs d (hchars d (by simp [hd])).1

theorem length_capitalize (word : List Char) : (capitalize word).length ≤ word.length + 2 := by
  cases word with
  | nil => simp [capitalize]
  | cons c rest =>
    have hchar := length_upperChar c
    simp only [capitalize, List.length_append, List.length_cons]
    omega

theorem length_map_capitalize (words : List (List Char)) :
    ((words.map capitalize).flatten).length ≤ words.flatten.length + 2 * words.length := by
  induction words with
  | nil => simp
  | cons word words ih =>
    have hword := length_capitalize word
    simp only [List.map_cons, List.flatten_cons, List.length_append, List.length_cons]
    omega

theorem length_le_flatten {parts : List (List Char)} (h : ∀ part ∈ parts, part ≠ []) :
    parts.length ≤ parts.flatten.length := by
  induction parts with
  | nil => simp
  | cons part parts ih =>
    have hpart := List.length_pos_iff.mpr (h part (by simp))
    have hrest := ih fun other ho => h other (by simp [ho])
    simp only [List.flatten_cons, List.length_append, List.length_cons]
    omega

theorem length_titleCase (s : List Char) : (titleCase s).length ≤ 4 * s.length := by
  have hjoin := length_intercalate ' ' ((runs (!isBlank ·) s).map capitalize)
  have hcapital := length_map_capitalize (runs (!isBlank ·) s)
  have hcount := length_le_flatten fun run hrun => (mem_runs (p := (!isBlank ·)) (s := s) hrun).1
  have htotal := length_flatten_runs (!isBlank ·) s
  rw [List.length_map] at hjoin
  rw [titleCase]
  omega

end Titles

end ArchDiagram.Text
