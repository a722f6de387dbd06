import Mathlib.Data.List.Basic
import ArchDiagram.Proofs.Source.Written
import ArchDiagram.Proofs.Text.Naming

namespace ArchDiagram.Text

/-- A letter from `a` to `z` or a digit. -/
def isSmall (c : Char) : Bool := c.isLower || c.isDigit

def isSlugChar (c : Char) : Bool := c.isLower || c.isDigit || c = '_'

/-- The text is made of the parts, at least one, with one underscore between two of them. Each part
has small letters and digits only, at least one. -/
structure Spells (parts : List (List Char)) (text : List Char) : Prop where
  nonempty : parts ≠ []
  small : ∀ part ∈ parts, part ≠ [] ∧ ∀ c ∈ part, isSmall c = true
  joined : text = List.intercalate ['_'] parts

section Characters

variable {c : Char}

theorem toNat_of_isAlphanum (h : c.isAlphanum = true) : c.toNat < 0x80 := by
  simp only [Char.isAlphanum, Char.isAlpha, Char.isUpper, Char.isLower, Char.isDigit, ge_iff_le,
    Bool.or_eq_true, Bool.and_eq_true, decide_eq_true_eq, UInt32.le_iff_toNat_le,
    Char.toNat_val] at h
  have hlast : 'z'.toNat < 0x80 ∧ 'Z'.toNat < 0x80 ∧ '9'.toNat < 0x80 := by decide
  omega

theorem isSmall_toLower (h : c.isAlphanum = true) : isSmall c.toLower = true := by
  have hascii := of_ascii (p := fun c => !c.isAlphanum || isSmall c.toLower) (by decide +kernel)
    (toNat_of_isAlphanum h)
  simpa [h] using hascii

theorem isAlphanum_of_isSmall (h : isSmall c = true) : c.isAlphanum = true := by
  rcases Bool.or_eq_true_iff.mp h with h | h <;> simp [Char.isAlphanum, Char.isAlpha, h]

theorem toLower_of_isSmall (h : isSmall c = true) : c.toLower = c := by
  have hascii := of_ascii (p := fun c => !isSmall c || c.toLower = c) (by decide +kernel)
    (toNat_of_isAlphanum (isAlphanum_of_isSmall h))
  simpa [h] using hascii

theorem ne_underscore_of_isSmall (h : isSmall c = true) : c ≠ '_' := by
  rintro rfl
  exact absurd h (by decide)

end Characters

section Writing

variable {written gap run name : List Char} {parts : List (List Char)}

theorem foldl_writeSlug_run (h : ∀ c ∈ run, c.isAlphanum = true) (written : List Char) :
    run.foldl writeSlug written = (run.map Char.toLower).reverse ++ written := by
  induction run generalizing written with
  | nil => rfl
  | cons c run ih =>
    have hc : writeSlug written c = c.toLower :: written := if_pos (h c (by simp))
    rw [List.foldl_cons, hc, ih fun d hd => h d (by simp [hd])]
    simp

/-- Nothing is written for a gap in front or behind an underscore. -/
theorem foldl_writeSlug_idle (h : ∀ c ∈ gap, c.isAlphanum = false)
    (hw : written = [] ∨ written.head? = some '_') : gap.foldl writeSlug written = written := by
  induction gap with
  | nil => rfl
  | cons c gap ih =>
    have hc : writeSlug written c = written := by
      rcases hw with rfl | hw <;> simp [writeSlug, h c (by simp), *]
    rw [List.foldl_cons, hc]
    exact ih fun d hd => h d (by simp [hd])

/-- One underscore is written for a gap behind a letter or digit. -/
theorem foldl_writeSlug_gap (hne : gap ≠ []) (h : ∀ c ∈ gap, c.isAlphanum = false)
    (hlast : ∃ c ∈ written.head?, isSmall c = true) :
    gap.foldl writeSlug written = '_' :: written := by
  obtain ⟨last, hmem, hsmall⟩ := hlast
  obtain ⟨before, rfl⟩ := List.head?_eq_some_iff.mp hmem
  obtain ⟨c, gap, rfl⟩ := List.exists_cons_of_ne_nil hne
  have hc : writeSlug (last :: before) c = '_' :: last :: before := by
    simp [writeSlug, h c (by simp), ne_underscore_of_isSmall hsmall]
  rw [List.foldl_cons, hc]
  exact foldl_writeSlug_idle (fun d hd => h d (by simp [hd])) (Or.inr rfl)

/-- A run is written with a letter or digit at the end. -/
theorem exists_last_written (hne : run ≠ []) (h : ∀ c ∈ run, c.isAlphanum = true)
    (written : List Char) :
    ∃ c ∈ ((run.map Char.toLower).reverse ++ written).head?, isSmall c = true := by
  obtain ⟨before, last, rfl⟩ : ∃ before last, run = before ++ [last] :=
    ⟨_, _, (List.dropLast_append_getLast hne).symm⟩
  exact ⟨last.toLower, by simp, isSmall_toLower (h last (by simp))⟩

theorem dropWhile_underscore (hlast : ∃ c ∈ written.head?, isSmall c = true) :
    written.dropWhile (· = '_') = written := by
  obtain ⟨last, hmem, hsmall⟩ := hlast
  obtain ⟨before, rfl⟩ := List.head?_eq_some_iff.mp hmem
  simp [ne_underscore_of_isSmall hsmall]

theorem intercalate_joined (sep first second : List Char) (parts : List (List Char)) :
    List.intercalate sep ((first ++ (sep ++ second)) :: parts) =
      List.intercalate sep (first :: second :: parts) := by
  cases parts <;> simp [List.intercalate, List.append_assoc]

/-- What is written behind a letter or digit for a text that begins with a gap, without an
underscore at the end: the runs of the text, each behind an underscore. -/
theorem written_behind (h : AreRuns Char.isAlphanum name parts)
    (hstart : ∀ c ∈ name.head?, c.isAlphanum = false)
    (hlast : ∃ c ∈ written.head?, isSmall c = true) :
    ((name.foldl writeSlug written).dropWhile (· = '_')).reverse =
      List.intercalate ['_'] (written.reverse :: parts.map (·.map Char.toLower)) := by
  induction h generalizing written with
  | @none gap hgap =>
    rw [List.map_nil, List.intercalate_singleton]
    by_cases hne : gap = []
    · rw [hne, List.foldl_nil, dropWhile_underscore hlast]
    · rw [foldl_writeSlug_gap hne hgap hlast, List.dropWhile_cons_of_pos (by simp),
        dropWhile_underscore hlast]
  | @run gap run rest parts hgap hne hrun hstop _ ih =>
    have hsome : gap ≠ [] := by
      rintro rfl
      obtain ⟨c, run, rfl⟩ := List.exists_cons_of_ne_nil hne
      have hc := hstart c rfl
      rw [hrun c (by simp)] at hc
      exact absurd hc (by decide)
    -- the gap writes the one underscore, and the run ends in a letter or digit again
    rw [List.foldl_append, List.foldl_append, foldl_writeSlug_gap hsome hgap hlast,
      foldl_writeSlug_run hrun, ih hstop (exists_last_written hne hrun _), List.map_cons,
      ← intercalate_joined]
    simp

theorem written_eq (h : AreRuns Char.isAlphanum name parts) :
    ((name.foldl writeSlug []).dropWhile (· = '_')).reverse =
      List.intercalate ['_'] (parts.map (·.map Char.toLower)) := by
  cases h with
  | none hgap => simp [foldl_writeSlug_idle hgap (Or.inl rfl)]
  | run hgap hne hrun hstop hrest =>
    rw [List.foldl_append, List.foldl_append, foldl_writeSlug_idle hgap (Or.inl rfl),
      foldl_writeSlug_run hrun, written_behind hrest hstop (exists_last_written hne hrun _),
      List.map_cons]
    simp

end Writing

section Spelling

variable {name text : List Char} {parts own : List (List Char)}

theorem isSlugChar_of_isSmall {c : Char} (h : isSmall c = true) : isSlugChar c = true := by
  rw [isSlugChar, ← isSmall, h, Bool.true_or]

theorem Spells.ne_nil (h : Spells parts text) : text ≠ [] := by
  rw [h.joined]
  exact intercalate_ne_nil h.nonempty fun part hpart => (h.small part hpart).1

theorem Spells.isSlugChar (h : Spells parts text) {c : Char} (hc : c ∈ text) :
    isSlugChar c = true := by
  rw [h.joined] at hc
  rcases mem_intercalate hc with hc | ⟨part, hpart, hc⟩
  · rw [List.mem_singleton.mp hc]
    decide
  · exact isSlugChar_of_isSmall ((h.small part hpart).2 c hc)

theorem areRuns_intercalate (h : ∀ part ∈ parts, part ≠ [] ∧ ∀ c ∈ part, isSmall c = true) :
    AreRuns Char.isAlphanum (List.intercalate ['_'] parts) parts := by
  induction parts with
  | nil => exact .none (by simp)
  | cons part parts ih =>
    obtain ⟨hne, hsmall⟩ := h part (by simp)
    have hletters : ∀ c ∈ part, c.isAlphanum = true :=
      fun c hc => isAlphanum_of_isSmall (hsmall c hc)
    have hlater := ih fun other ho => h other (by simp [ho])
    by_cases hlast : parts = []
    · subst hlast
      simpa using hlater.front hne hletters (by simp)
    · have hgap := hlater.cons_of_neg (c := '_') (by decide)
      rw [List.intercalate_cons_of_ne_nil hlast, List.append_assoc]
      exact hgap.front hne hletters (by simp)

/-- The parts are found again as the runs of the text. -/
theorem Spells.areRuns (h : Spells parts text) : AreRuns Char.isAlphanum text parts := by
  rw [h.joined]
  exact areRuns_intercalate h.small

theorem Spells.unique (h : Spells parts text) (ho : Spells own text) : parts = own :=
  (areRuns_iff.mp h.areRuns).trans (areRuns_iff.mp ho.areRuns).symm

theorem spells_lowered (h : AreRuns Char.isAlphanum name own) (hne : own ≠ []) :
    Spells (own.map (·.map Char.toLower))
      (List.intercalate ['_'] (own.map (·.map Char.toLower))) := by
  refine ⟨by simpa using hne, fun part hpart => ?_, rfl⟩
  obtain ⟨run, hrun, rfl⟩ := List.mem_map.mp hpart
  obtain ⟨hsome, hletters⟩ := h.mem hrun
  refine ⟨by simpa using hsome, fun c hc => ?_⟩
  obtain ⟨d, hd, rfl⟩ := List.mem_map.mp hc
  exact isSmall_toLower (hletters d hd).2

theorem spells_node : Spells [['n', 'o', 'd', 'e']] ['n', 'o', 'd', 'e'] := by
  have hsmall : ['n', 'o', 'd', 'e'].all isSmall = true := by decide
  exact ⟨by simp, by simpa using hsmall, rfl⟩

/-- The identifier of a name has the runs of the name in lower case, if there are any. -/
theorem spells_slug (h : AreRuns Char.isAlphanum name own) :
    Spells (if name.any Char.isAlphanum then own.map (·.map Char.toLower)
      else [['n', 'o', 'd', 'e']]) (slug name) := by
  have hwritten := written_eq h
  cases hany : name.any Char.isAlphanum with
  | false =>
    obtain rfl := h.eq_nil_iff.mpr hany
    have hnothing : (name.foldl writeSlug []).dropWhile (· = '_') = [] := by simpa using hwritten
    rw [slug, hnothing]
    exact spells_node
  | true =>
    have hne : own ≠ [] := by
      intro hnil
      rw [h.eq_nil_iff.mp hnil] at hany
      contradiction
    have hspells := spells_lowered h hne
    rw [if_pos rfl, slug]
    split
    · next hnothing =>
      rw [hnothing] at hwritten
      exact absurd hwritten.symm hspells.ne_nil
    · rwa [hwritten]

example : slug " Große Straße -- №7!".toList = "gro_e_stra_e_7".toList := by decide +kernel

theorem exists_spells_slug (name : List Char) : ∃ parts, Spells parts (slug name) :=
  ⟨_, spells_slug (areRuns_runs _ name)⟩

theorem Spells.map_toLower (h : Spells parts text) : parts.map (·.map Char.toLower) = parts := by
  have hsame : ∀ part ∈ parts, part.map Char.toLower = id part := by
    intro part hpart
    rw [List.map_congr_left fun c hc => toLower_of_isSmall ((h.small part hpart).2 c hc),
      List.map_id', id]
  rw [List.map_congr_left hsame, List.map_id]

/-- A text that is spelled like an identifier is its own identifier. -/
theorem Spells.slug_self (h : Spells parts text) : slug text = text := by
  have hany : text.any Char.isAlphanum = true := by
    rw [← Bool.not_eq_false, ← h.areRuns.eq_nil_iff]
    exact h.nonempty
  have hagain := spells_slug h.areRuns
  rw [if_pos hany, h.map_toLower] at hagain
  exact hagain.joined.trans h.joined.symm

theorem slug_ne_nil (name : List Char) : slug name ≠ [] := by
  obtain ⟨parts, h⟩ := exists_spells_slug name
  exact h.ne_nil

theorem mem_slug {c : Char} (hc : c ∈ slug name) : isSlugChar c = true := by
  obtain ⟨parts, h⟩ := exists_spells_slug name
  exact h.isSlugChar hc

theorem isIdChar_of_slugChar {c : Char} (h : isSlugChar c = true) : Source.isIdChar c = true := by
  simp only [isSlugChar, Bool.or_eq_true, decide_eq_true_eq] at h
  rcases h with (h | h) | h
  · simp [Source.isIdChar, Char.isAlphanum, Char.isAlpha, h]
  · simp [Source.isIdChar, Char.isAlphanum, h]
  · simp [Source.isIdChar, h]

theorem isId_slug (name : List Char) : Source.IsId (String.ofList (slug name)) := by
  rw [Source.IsId, String.toList_ofList]
  exact ⟨slug_ne_nil name, fun c hc => isIdChar_of_slugChar (mem_slug hc)⟩

end Spelling

/-- The identifier of a name is made of runs of small letters and digits, with one underscore
between two of them, so that it can stand in source. It is its own identifier. Its runs are those of
the ASCII letters and digits in the name, in lower case and in order, or the word `node` if the name
has none. -/
theorem slug_canonical (name : List Char) :
    (∃ parts, Spells parts (slug name)) ∧
      Source.IsId (String.ofList (slug name)) ∧
      slug (slug name) = slug name ∧
      ∀ parts, Spells parts (slug name) ↔ ∃ own, AreRuns Char.isAlphanum name own ∧
        parts = if name.any Char.isAlphanum then own.map (·.map Char.toLower)
          else [['n', 'o', 'd', 'e']] := by
  obtain ⟨parts, hparts⟩ := exists_spells_slug name
  refine ⟨⟨parts, hparts⟩, isId_slug name, hparts.slug_self, fun other => ?_⟩
  constructor
  · intro h
    exact ⟨_, areRuns_runs _ name, h.unique (spells_slug (areRuns_runs _ name))⟩
  · rintro ⟨own, hown, rfl⟩
    exact spells_slug hown

end ArchDiagram.Text
