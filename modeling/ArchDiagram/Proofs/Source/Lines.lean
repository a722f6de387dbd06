import Mathlib.Data.List.Nodup
import ArchDiagram.Proofs.Text.Lines
import ArchDiagram.Proofs.Text.Trim
import ArchDiagram.Source.Compile

namespace ArchDiagram.Source

/-- A statement line is a line of the text that is neither blank nor a comment, with its number. -/
theorem mem_sourceLines_iff {source : List Char} {line : SourceLine} :
    line ∈ sourceLines source ↔
      (∃ index raw, (Text.lines source)[index]? = some raw ∧ line.number = index + 1 ∧
        line.text = Text.trim raw) ∧ line.text ≠ [] ∧ ¬commentMark <+: line.text := by
  simp only [sourceLines, List.mem_filter, List.mem_map, Bool.and_eq_true, Bool.not_eq_true',
    List.isEmpty_eq_false_iff]
  refine and_congr ?_ (and_congr Iff.rfl ?_)
  · constructor
    · intro h
      obtain ⟨item, hi, rfl⟩ := h
      obtain ⟨index, hn, hr⟩ := Text.mem_numbered_iff.mp hi
      exact ⟨index, item.2, hr, hn, rfl⟩
    · intro h
      obtain ⟨index, raw, hr, hn, ht⟩ := h
      exact ⟨(index + 1, raw), Text.mem_numbered_iff.mpr ⟨index, rfl, hr⟩, by rw [← hn, ← ht]⟩
  · rw [← Bool.not_eq_true, List.isPrefixOf_iff_prefix]

/-- The lines of a source have rising numbers. -/
theorem sourceLines_number_lt (source : List Char) :
    (sourceLines source).Pairwise (·.number < ·.number) := by
  have hn : ((Text.numbered (Text.lines source)).map (·.1)).Pairwise (· < ·) := by
    rw [Text.map_fst_numbered]
    exact List.pairwise_lt_range'
  rw [sourceLines]
  apply List.Pairwise.filter
  rw [List.pairwise_map]
  exact List.pairwise_map.mp hn

section Numbers

variable {lines : List SourceLine} (h : lines.Pairwise (·.number < ·.number))
include h

theorem nodup_of_number_lt : lines.Nodup := h.imp fun hlt he => absurd hlt (by simp [he])

/-- A line is given by its number. -/
theorem eq_of_number_eq {a b : SourceLine} (ha : a ∈ lines) (hb : b ∈ lines)
    (he : a.number = b.number) :
    a = b :=
  List.inj_on_of_nodup_map (List.pairwise_map.mpr (h.imp fun hlt => hlt.ne)) ha hb he

end Numbers

/-- A trimmed line that is neither empty nor a comment. -/
def holdsStatement (text : List Char) : Bool := !text.isEmpty && !commentMark.isPrefixOf text

/-- The texts of the lines that hold statements. -/
def texts (source : List Char) : List (List Char) :=
  ((Text.lines source).map Text.trim).filter holdsStatement

theorem map_text_sourceLines (source : List Char) :
    (sourceLines source).map (·.text) = texts source := by
  rw [sourceLines, texts]
  nth_rewrite 2 [← Text.map_snd_numbered (Text.lines source)]
  rw [List.map_map, List.filter_map, List.filter_map, List.map_map]
  rfl

section Numbering

/-- The statements of lines that are counted from a number on. -/
def statementsFrom (first : Nat) (raws : List (List Char)) : List SourceLine :=
  ((raws.zipIdx first).map fun item => ⟨item.2, Text.trim item.1⟩).filter fun line =>
    holdsStatement line.text

theorem sourceLines_eq (source : List Char) :
    sourceLines source = statementsFrom 1 (Text.lines source) := by
  rw [sourceLines, statementsFrom, Text.numbered, List.map_map]
  rfl

theorem statementsFrom_append (first : Nat) (raws others : List (List Char)) :
    statementsFrom first (raws ++ others) =
      statementsFrom first raws ++ statementsFrom (first + raws.length) others := by
  simp only [statementsFrom, List.zipIdx_append, List.map_append, List.filter_append]

theorem statementsFrom_cons (first : Nat) {raw : List Char} (raws : List (List Char))
    (h : holdsStatement (Text.trim raw) = true) :
    statementsFrom first (raw :: raws) =
      ⟨first, Text.trim raw⟩ :: statementsFrom (first + 1) raws := by
  simp only [statementsFrom, List.zipIdx_cons, List.map_cons, List.filter_cons, h, if_true]

/-- A line that holds a statement among the lines of a source. -/
theorem sourceLines_split {source : List Char} {before after : List (List Char)} {raw : List Char}
    (hs : Text.lines source = before ++ raw :: after) (h : holdsStatement (Text.trim raw) = true) :
    sourceLines source = statementsFrom 1 before ++
      ⟨before.length + 1, Text.trim raw⟩ :: statementsFrom (before.length + 2) after := by
  rw [sourceLines_eq, hs, statementsFrom_append, statementsFrom_cons _ _ h, Nat.add_comm 1,
    Nat.add_right_comm]

end Numbering

section Texts

variable {u : List Char} {lines : List (List Char)}

theorem texts_append (h : '\n' ∉ u) (rest : List Char) :
    texts (u ++ '\n' :: rest) = [Text.trim u].filter holdsStatement ++ texts rest := by
  obtain ⟨raw, hraw, hends⟩ := Text.lines_append h rest
  have htrim : Text.trim raw = Text.trim u := by
    rcases hends with rfl | rfl
    · rfl
    · exact (Text.trim_append_blank (by decide)).symm
  rw [texts, hraw, List.map_cons, htrim, ← List.singleton_append, List.filter_append]
  rfl

theorem texts_of_not_mem (h : '\n' ∉ u) : texts u = [Text.trim u].filter holdsStatement := by
  cases u with
  | nil => rfl
  | cons c u => rw [texts, Text.lines_of_not_mem h (List.cons_ne_nil c u), List.map_singleton]

/-- The statements of two sources, one below the other. -/
theorem texts_below (u v : List Char) : texts (u ++ '\n' :: v) = texts u ++ texts v := by
  by_cases h : '\n' ∈ u
  · obtain ⟨line, rest, rfl, hline⟩ := List.eq_append_cons_of_mem h
    have hshorter : rest.length < (line ++ '\n' :: rest).length := by simp; omega
    rw [List.append_assoc, List.cons_append, texts_append hline, texts_append hline,
      texts_below rest v, List.append_assoc]
  · rw [texts_append h, texts_of_not_mem h]
termination_by u.length

theorem texts_flatMap (lines : List (List Char)) (rest : List Char) :
    texts (lines.flatMap (· ++ ['\n']) ++ rest) = lines.flatMap texts ++ texts rest := by
  induction lines with
  | nil => rfl
  | cons u lines ih =>
    have hcons : (u :: lines).flatMap (· ++ ['\n']) ++ rest =
        u ++ '\n' :: (lines.flatMap (· ++ ['\n']) ++ rest) := by simp
    rw [hcons, texts_below, ih, List.flatMap_cons, List.append_assoc]

/-- Empty lines between the parts of a source do not matter. -/
theorem texts_intercalate (parts : List (List (List Char))) :
    texts (List.intercalate ['\n'] (parts.map fun lines => lines.flatMap (· ++ ['\n']))) =
      parts.flatten.flatMap texts := by
  induction parts with
  | nil => rfl
  | cons part parts ih =>
    rw [List.flatten_cons, List.flatMap_append, ← ih]
    cases parts with
    | nil => simpa [List.intercalate, texts] using texts_flatMap part []
    | cons next parts =>
      rw [List.map_cons, List.map_cons, List.intercalate_cons_cons, ← List.map_cons,
        List.append_assoc, texts_flatMap]
      exact congrArg _ (texts_append List.not_mem_nil _)

/-- Lines that are whole are trimmed, and left out if they hold no statement. -/
theorem flatMap_texts (h : ∀ u ∈ lines, '\n' ∉ u) :
    lines.flatMap texts = (lines.map Text.trim).filter holdsStatement := by
  induction lines with
  | nil => rfl
  | cons u lines ih =>
    rw [List.flatMap_cons, texts_of_not_mem (h u (by simp)), ih fun v hv => h v (by simp [hv]),
      ← List.filter_append]
    rfl

end Texts

end ArchDiagram.Source
