import Mathlib.Data.List.TakeWhile
import ArchDiagram.Text.Blank

namespace ArchDiagram.Text

variable {u v : List Char}

theorem trimLeft_of_head (h : ∀ c ∈ u.head?, isBlank c = false) : trimLeft u = u := by
  cases u with
  | nil => rfl
  | cons c u => simp [trimLeft, h c rfl]

theorem trimRight_of_last (h : ∀ c ∈ u.getLast?, isBlank c = false) : trimRight u = u := by
  rw [trimRight, trimLeft_of_head, List.reverse_reverse]
  rwa [List.head?_reverse]

theorem trim_of_ends (hhead : ∀ c ∈ u.head?, isBlank c = false)
    (hlast : ∀ c ∈ u.getLast?, isBlank c = false) :
    trim u = u := by
  rw [trim, trimLeft_of_head hhead, trimRight_of_last hlast]

theorem trim_blank_append (h : ∀ c ∈ u, isBlank c = true) : trim (u ++ v) = trim v := by
  rw [trim, trim, trimLeft, List.dropWhile_append_of_pos h, trimLeft]

theorem trim_append_blank {c : Char} (hc : isBlank c = true) : trim (u ++ [c]) = trim u := by
  rw [trim, trim, trimLeft, trimLeft, List.dropWhile_append]
  split_ifs with h
  · rw [List.isEmpty_iff.mp h]
    simp [trimRight, trimLeft, hc]
  · simp [trimRight, trimLeft, hc]

theorem trim_eq_nil_iff : trim u = [] ↔ ∀ c ∈ u, isBlank c = true := by
  constructor
  · intro h
    rw [trim, trimRight, List.reverse_eq_nil_iff, trimLeft, List.dropWhile_eq_nil_iff] at h
    have hnone : trimLeft u = [] := by
      by_contra hne
      have hfirst := u.head?_dropWhile_not isBlank
      obtain ⟨c, rest, hc⟩ := List.exists_cons_of_ne_nil hne
      rw [← trimLeft, hc] at hfirst
      have hword : isBlank c = false := hfirst
      rw [h c (by simp [hc])] at hword
      contradiction
    exact List.dropWhile_eq_nil_iff.mp hnone
  · intro h
    rw [trim, trimLeft, List.dropWhile_eq_nil_iff.mpr h]
    rfl

/-- Trimming keeps a front without white space. -/
theorem prefix_trim (h : v <+: u) (hv : ∀ c ∈ v, isBlank c = false) : v <+: trim u := by
  obtain ⟨w, rfl⟩ := h
  cases v with
  | nil => exact List.nil_prefix
  | cons b v =>
    have hb : trimLeft (b :: v ++ w) = b :: v ++ w :=
      trimLeft_of_head (by simpa using hv b (by simp))
    have hr : trimLeft (b :: v).reverse = (b :: v).reverse := by
      apply trimLeft_of_head
      intro c hc
      exact hv c (List.mem_reverse.mp (List.mem_of_head? hc))
    rw [trim, hb, trimRight, List.reverse_append, trimLeft, List.dropWhile_append]
    split_ifs
    · have hback : (trimLeft (b :: v).reverse).reverse = b :: v := by rw [hr, List.reverse_reverse]
      exact ⟨[], (List.append_nil _).trans hback.symm⟩
    · rw [List.reverse_append, List.reverse_reverse]
      exact List.prefix_append _ _

end ArchDiagram.Text
