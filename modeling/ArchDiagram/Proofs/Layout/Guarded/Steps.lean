import Mathlib
import ArchDiagram.Proofs.Layout.Guarded

namespace ArchDiagram.Layout.Guarded

variable {α β γ : Type}

section Steps

variable {a b i : Nat} {x y : β} {xs : List β}

theorem ok_bind (x : β) (f : β → Guarded γ) : (Except.ok x >>= f) = f x := rfl

theorem pure_eq (x : β) : (pure x : Guarded β) = .ok x := rfl

theorem quotient_eq (h : 0 < b) : quotient a b = .ok (a / b) := if_neg h.ne'

theorem remainder_eq (h : 0 < b) : remainder a b = .ok (a % b) := if_neg h.ne'

theorem rows_eq (h : 0 < b) : rows a b = .ok (rowsFor a b) := if_neg h.ne'

theorem difference_eq (h : b ≤ a) : difference a b = .ok (a - b) := if_neg (Nat.not_lt.mpr h)

theorem ratio_eq [Scalar α] {p q : α} (h : isZero q = false) : ratio p q = .ok (p / q) := by
  rw [ratio, h]
  rfl

theorem read_eq (h : xs[i]? = some x) : read xs i = .ok x := by rw [read, h]

theorem write_eq (h : i < xs.length) : write xs i x = .ok (xs.set i x) := if_pos h

theorem update_eq {f : β → Guarded β} (h : xs[i]? = some x) (hf : f x = .ok y) :
    update xs i f = .ok (xs.set i y) := by
  obtain ⟨hlt, -⟩ := List.getElem?_eq_some_iff.mp h
  rw [update, read_eq h, ok_bind, hf, ok_bind, write_eq hlt]

theorem tighten_eq (compact : Bool) (h : 0 < a) :
    tighten compact a = .ok (tightened compact a) := by
  rw [tighten, tightened]
  split_ifs
  · rw [difference_eq h]
    rfl
  · rfl

/-- What a layout divides by is not zero: counts, two constants, and distances between different
points. -/
class Divisors (α : Type) [Scalar α] : Prop where
  count : ∀ n : Nat, 0 < n → isZero (n : α) = false
  two : isZero (2.0 : α) = false
  complexity : isZero (0.8 : α) = false
  distance : ∀ x : α, coincidence < x → isZero x = false

end Steps

section Loops

variable {xs : List β} {s : γ}

theorem mapM_eq_ok {f : β → Guarded γ} {g : β → γ} (h : ∀ x ∈ xs, f x = .ok (g x)) :
    xs.mapM f = .ok (xs.map g) := by
  induction xs with
  | nil => rfl
  | cons x xs ih =>
    rw [List.mapM_cons, h x List.mem_cons_self, ok_bind,
      ih fun y hy => h y (List.mem_cons_of_mem x hy), ok_bind, pure_eq, List.map_cons]

/-- A loop that only reads goes through the elements at the positions. -/
theorem foldlM_read {f : γ → β → γ} {positions : List Nat} (h : ∀ i ∈ positions, i < xs.length) :
    positions.foldlM (fun s i => do return f s (← read xs i)) s =
      .ok ((positions.filterMap (xs[·]?)).foldl f s) := by
  induction positions generalizing s with
  | nil => rfl
  | cons i positions ih =>
    obtain ⟨x, hi⟩ : ∃ x, xs[i]? = some x := ⟨_, List.getElem?_eq_getElem (h i List.mem_cons_self)⟩
    rw [List.foldlM_cons, read_eq hi, ok_bind, pure_eq, ok_bind, List.filterMap_cons_some hi,
      List.foldl_cons]
    exact ih fun j hj => h j (List.mem_cons_of_mem i hj)

/-- The elements at some positions changed, each with the number of its position, counted from
`start` on. -/
def scatter (g : Nat → β → β) (positions : List Nat) (start : Nat) (xs : List β) : List β :=
  xs.mapIdx fun i x => ((positions.idxOf? i).map fun slot => g (start + slot) x).getD x

theorem length_scatter (g : Nat → β → β) (positions : List Nat) (start : Nat) (xs : List β) :
    (scatter g positions start xs).length = xs.length := List.length_mapIdx

theorem scatter_nil (g : Nat → β → β) (start : Nat) (xs : List β) : scatter g [] start xs = xs := by
  apply List.ext_getElem?
  intro i
  simp [scatter]

/-- Two changes at the same positions are one. -/
theorem scatter_scatter (f g : Nat → β → β) (positions : List Nat) (start : Nat) (xs : List β) :
    scatter f positions start (scatter g positions start xs) =
      scatter (fun slot x => f slot (g slot x)) positions start xs := by
  apply List.ext_getElem?
  intro i
  simp only [scatter, List.getElem?_mapIdx, Option.map_map]
  congr 1
  funext x
  cases positions.idxOf? i <;> rfl

theorem scatter_cons {g : Nat → β → β} {i start : Nat} {positions : List Nat} {x : β}
    (h : xs[i]? = some x) (hnew : i ∉ positions) :
    scatter g positions (start + 1) (xs.set i (g start x)) =
      scatter g (i :: positions) start xs := by
  apply List.ext_getElem?
  intro j
  rw [scatter, scatter, List.getElem?_mapIdx, List.getElem?_mapIdx, List.idxOf?_cons]
  by_cases hj : i = j
  · subst hj
    obtain ⟨hlt, -⟩ := List.getElem?_eq_some_iff.mp h
    rw [List.getElem?_set_self hlt, h, List.idxOf?_eq_none_iff.mpr hnew]
    simp
  · have hne : ¬(i == j) = true := by simpa using hj
    rw [List.getElem?_set_ne hj, if_neg hne]
    cases positions.idxOf? j with
    | none => rfl
    | some slot =>
      have hslot : start + 1 + slot = start + (slot + 1) := by omega
      simp [hslot]

theorem foldlM_update {f : Nat → β → Guarded β} {g : Nat → β → β} {positions : List Nat}
    {start : Nat} (hnodup : positions.Nodup) (hlt : ∀ i ∈ positions, i < xs.length)
    (hf : ∀ slot x, slot < start + positions.length → f slot x = .ok (g slot x)) :
    (positions.zipIdx start).foldlM (fun xs p => update xs p.1 (f p.2)) xs =
      .ok (scatter g positions start xs) := by
  induction positions generalizing start xs with
  | nil =>
    rw [scatter_nil]
    rfl
  | cons i positions ih =>
    obtain ⟨hnew, hrest⟩ := List.nodup_cons.mp hnodup
    obtain ⟨x, hi⟩ : ∃ x, xs[i]? = some x :=
      ⟨_, List.getElem?_eq_getElem (hlt i List.mem_cons_self)⟩
    rw [List.length_cons] at hf
    rw [List.zipIdx_cons, List.foldlM_cons, update_eq hi (hf start _ (by omega)), ok_bind, ih hrest]
    · rw [scatter_cons hi hnew]
    · intro j hj
      rw [List.length_set]
      exact hlt j (List.mem_cons_of_mem i hj)
    · intro slot x hslot
      exact hf slot x (by omega)

theorem updateAll_eq {f : Nat → β → Guarded β} {g : Nat → β → β} {positions : List Nat}
    (hnodup : positions.Nodup) (hlt : ∀ i ∈ positions, i < xs.length)
    (hf : ∀ slot x, slot < positions.length → f slot x = .ok (g slot x)) :
    updateAll f positions xs = .ok (scatter g positions 0 xs) :=
  foldlM_update hnodup hlt fun slot x hslot => hf slot x (by omega)

end Loops

end ArchDiagram.Layout.Guarded
