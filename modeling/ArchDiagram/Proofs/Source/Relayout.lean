import Mathlib.Data.List.Induction
import Mathlib.Order.Monotone.Basic
import ArchDiagram.Proofs.Source.Renumbering

namespace ArchDiagram.Source

section Layouts

/-- A line feed, or a carriage return and a line feed. -/
def IsLineEnd (e : List Char) : Prop := e = ['\n'] ∨ e = ['\r', '\n']

/-- White space within a line. -/
structure IsPadding (u : List Char) : Prop where
  blank : ∀ c ∈ u, Text.isBlank c = true
  whole : '\n' ∉ u

/-- A blank line, or a comment with or without white space before it. -/
def IsIdle (v : List Char) : Prop :=
  '\n' ∉ v ∧ ∃ u rest, v = u ++ rest ∧ IsPadding u ∧ (rest = [] ∨ commentMark <+: rest)

/-- New numbers for lines that stand behind one that keeps the number one. -/
def behindFirst (moved : Nat → Nat) : Nat → Nat
  | 0 => 0
  | 1 => 1
  | n + 2 => moved (n + 1) + 1

/-- The second text is the first one laid out anew. Line ends may be written the other way, lines
get white space before and after them, and blank lines and comments are put in anywhere. A line with
a number of the first text has the number in the second text that the function gives. -/
inductive Relaid : (Nat → Nat) → List Char → List Char → Prop
  | nil : Relaid id [] []
  /-- Behind the last line end there may be one more line without an end. -/
  | ended {v : List Char} : IsIdle v → v ≠ [] → Relaid (· + 1) [] v
  /-- The last line has no end. -/
  | last {before u after : List Char} : '\n' ∉ u → u ≠ [] → IsPadding before → IsPadding after →
      Relaid id u (before ++ u ++ after)
  /-- The last line gets an end, so that lines can follow. -/
  | followed {before u after e other : List Char} {moved : Nat → Nat} : '\n' ∉ u → u ≠ [] →
      IsPadding before → IsPadding after → IsLineEnd e → Relaid moved [] other →
      Relaid (behindFirst moved) u (before ++ u ++ after ++ e ++ other)
  | line {before u after e e' source other : List Char} {moved : Nat → Nat} :
      '\n' ∉ u → IsPadding before →
      IsPadding after → IsLineEnd e → IsLineEnd e' → Relaid moved source other →
      Relaid (behindFirst moved) (u ++ e ++ source) (before ++ u ++ after ++ e' ++ other)
  | above {v e source other : List Char} {moved : Nat → Nat} : IsIdle v → IsLineEnd e →
      Relaid moved source other → Relaid (fun n => moved n + 1) source (v ++ e ++ other)

/-- The same for lines of texts. Lines that correspond have the same text between the white space at
their ends, and the others hold no statement. -/
inductive LinesRelaid : (Nat → Nat) → List (List Char) → List (List Char) → Prop
  | nil : LinesRelaid id [] []
  | line {u v : List Char} {us vs : List (List Char)} {moved : Nat → Nat} :
      Text.trim v = Text.trim u →
      LinesRelaid moved us vs → LinesRelaid (behindFirst moved) (u :: us) (v :: vs)
  | above {v : List Char} {us vs : List (List Char)} {moved : Nat → Nat} :
      holdsStatement (Text.trim v) = false → LinesRelaid moved us vs →
      LinesRelaid (fun n => moved n + 1) us (v :: vs)

end Layouts

section Lines

variable {before u after e rest : List Char}

theorem IsPadding.nil : IsPadding [] := ⟨by simp, by simp⟩

theorem IsPadding.cons {c : Char} (hblank : Text.isBlank c = true) (hwhole : '\n' ≠ c)
    (h : IsPadding u) :
    IsPadding (c :: u) :=
  ⟨List.forall_mem_cons.mpr ⟨hblank, h.blank⟩, List.not_mem_cons_of_ne_of_not_mem hwhole h.whole⟩

theorem isBlank_of_mem_commentMark : ∀ c ∈ commentMark, Text.isBlank c = false := by
  intro c hc
  obtain rfl : c = '/' := by simpa [commentMark] using hc
  decide

theorem IsIdle.holds (h : IsIdle u) : holdsStatement (Text.trim u) = false := by
  obtain ⟨-, pad, rest, rfl, hpad, hrest⟩ := h
  rw [Text.trim_blank_append hpad.blank]
  rcases hrest with rfl | hmark
  · rfl
  · have hfront : commentMark <+: Text.trim rest :=
      Text.prefix_trim hmark isBlank_of_mem_commentMark
    simp [holdsStatement, List.isPrefixOf_iff_prefix.mpr hfront]

/-- White space at the ends of a line is trimmed. -/
theorem trim_padded (hb : IsPadding before) (ha : IsPadding after) :
    Text.trim (before ++ u ++ after) = Text.trim u := by
  rw [List.append_assoc, Text.trim_blank_append hb.blank]
  have hblank := ha.blank
  clear ha
  induction after using List.reverseRecOn with
  | nil => rw [List.append_nil]
  | append_singleton after c ih =>
    rw [← List.append_assoc, Text.trim_append_blank (hblank c (by simp))]
    exact ih fun d hd => hblank d (by simp [hd])

theorem not_mem_padded (hu : '\n' ∉ u) (hb : IsPadding before) (ha : IsPadding after) :
    '\n' ∉ before ++ u ++ after := by
  simp [hu, hb.whole, ha.whole]

/-- A text up to a line end is a line, but for white space at its end. -/
theorem lines_append_end (hu : '\n' ∉ u) (he : IsLineEnd e) (rest : List Char) :
    ∃ raw, Text.lines (u ++ e ++ rest) = raw :: Text.lines rest ∧ Text.trim raw = Text.trim u := by
  have hline {v : List Char} (hv : '\n' ∉ v) (ht : Text.trim v = Text.trim u) :
      ∃ raw, Text.lines (v ++ '\n' :: rest) = raw :: Text.lines rest ∧
      Text.trim raw = Text.trim u := by
    obtain ⟨raw, hraw, hends⟩ := Text.lines_append hv rest
    refine ⟨raw, hraw, ?_⟩
    rcases hends with rfl | rfl
    · exact ht
    · rw [← ht, Text.trim_append_blank (by decide)]
  rcases he with rfl | rfl
  · simpa using hline hu rfl
  · simpa using hline (v := u ++ ['\r']) (by simp [hu]) (Text.trim_append_blank (by decide))

theorem behindFirst_id : behindFirst id = id := by
  funext n
  match n with
  | 0 => rfl
  | 1 => rfl
  | n + 2 => rfl

theorem strictMono_behindFirst {moved : Nat → Nat} (h : StrictMono moved) :
    StrictMono (behindFirst moved) := by
  apply strictMono_nat_of_lt_succ
  intro n
  match n with
  | 0 => exact Nat.zero_lt_one
  | 1 => exact Nat.succ_lt_succ (Nat.lt_of_le_of_lt (Nat.zero_le _) (h Nat.zero_lt_one))
  | n + 2 => exact Nat.succ_lt_succ (h (Nat.lt_succ_self (n + 1)))

end Lines

section Numbers

variable {moved : Nat → Nat} {us vs : List (List Char)}

theorem LinesRelaid.strictMono (h : LinesRelaid moved us vs) : StrictMono moved := by
  induction h with
  | nil => exact strictMono_id
  | line _ _ ih => exact strictMono_behindFirst ih
  | above _ _ ih => exact fun a b hab => Nat.succ_lt_succ (ih hab)

/-- A line is found again under its new number. -/
theorem LinesRelaid.exists_line (h : LinesRelaid moved us vs) {index : Nat} {u : List Char}
    (hu : us[index]? = some u) :
    ∃ place v, moved (index + 1) = place + 1 ∧ vs[place]? = some v ∧ Text.trim v = Text.trim u := by
  induction h generalizing index with
  | nil => simp at hu
  | line ht _ ih =>
    cases index with
    | zero =>
      obtain rfl : _ = u := by simpa using hu
      exact ⟨0, _, rfl, rfl, ht⟩
    | succ index =>
      obtain ⟨place, v, hplace, hv, htv⟩ := ih (by simpa using hu)
      exact ⟨place + 1, v, by rw [behindFirst, hplace], by simpa using hv, htv⟩
  | above _ _ ih =>
    obtain ⟨place, v, hplace, hv, htv⟩ := ih hu
    exact ⟨place + 1, v, congrArg (· + 1) hplace, by simpa using hv, htv⟩

theorem statementsFrom_succ (first : Nat) (raws : List (List Char)) :
    statementsFrom (first + 1) raws = (statementsFrom first raws).map (·.renumber (· + 1)) := by
  rw [statementsFrom, statementsFrom, List.zipIdx_succ, List.map_map, List.filter_map,
    List.filter_map, List.map_map]
  rfl

theorem statementsFrom_idle (first : Nat) {raw : List Char} (raws : List (List Char))
    (h : holdsStatement (Text.trim raw) = false) :
    statementsFrom first (raw :: raws) = statementsFrom (first + 1) raws := by
  simp [statementsFrom, h]

theorem one_le_of_mem_statementsFrom {raws : List (List Char)} {line : SourceLine}
    (h : line ∈ statementsFrom 1 raws) : 1 ≤ line.number := by
  obtain ⟨item, hm, rfl⟩ := List.mem_map.mp (List.mem_filter.mp h).1
  exact List.le_snd_of_mem_zipIdx hm

/-- The statements are the same, under the new numbers of their lines. -/
theorem LinesRelaid.statementsFrom_eq (h : LinesRelaid moved us vs) :
    statementsFrom 1 vs = (statementsFrom 1 us).map (·.renumber moved) := by
  induction h with
  | nil => rfl
  | @line u v us vs moved ht _ ih =>
    have hlater : statementsFrom (1 + 1) vs =
        (statementsFrom (1 + 1) us).map (·.renumber (behindFirst moved)) := by
      rw [statementsFrom_succ 1 vs, statementsFrom_succ 1 us, ih, List.map_map, List.map_map]
      apply List.map_congr_left
      intro line hm
      obtain ⟨n, hn⟩ := Nat.exists_eq_add_of_le' (one_le_of_mem_statementsFrom hm)
      simp [SourceLine.renumber, hn, behindFirst]
    cases hs : holdsStatement (Text.trim u) with
    | true =>
      rw [statementsFrom_cons _ _ hs, statementsFrom_cons _ _ (ht ▸ hs), hlater, List.map_cons, ht]
      rfl
    | false => rw [statementsFrom_idle _ _ hs, statementsFrom_idle _ _ (ht ▸ hs), hlater]
  | above hidle _ ih =>
    rw [statementsFrom_idle _ _ hidle, statementsFrom_succ, ih, List.map_map]
    rfl

end Numbers

section Texts

variable {moved : Nat → Nat} {source other : List Char}

theorem Relaid.lines (h : Relaid moved source other) :
    LinesRelaid moved (Text.lines source) (Text.lines other) := by
  induction h with
  | nil => exact .nil
  | ended hidle hne =>
    rw [Text.lines_of_not_mem hidle.1 hne]
    exact .above hidle.holds .nil
  | last hu hne hb ha =>
    rw [Text.lines_of_not_mem hu hne,
      Text.lines_of_not_mem (not_mem_padded hu hb ha) (by simp [hne])]
    exact behindFirst_id ▸ .line (trim_padded hb ha) .nil
  | followed hu hne hb ha he _ ih =>
    obtain ⟨raw, hraw, ht⟩ := lines_append_end (not_mem_padded hu hb ha) he _
    rw [Text.lines_of_not_mem hu hne, hraw]
    exact .line (ht.trans (trim_padded hb ha)) ih
  | line hu hb ha he he' _ ih =>
    obtain ⟨first, hfirst, htf⟩ := lines_append_end hu he _
    obtain ⟨raw, hraw, ht⟩ := lines_append_end (not_mem_padded hu hb ha) he' _
    rw [hfirst, hraw]
    exact .line ((ht.trans (trim_padded hb ha)).trans htf.symm) ih
  | above hidle he _ ih =>
    obtain ⟨raw, hraw, ht⟩ := lines_append_end hidle.1 he _
    rw [hraw]
    exact .above (ht ▸ hidle.holds) ih

end Texts

/-- The text with a carriage return before every line feed. -/
def withReturns (source : List Char) : List Char :=
  source.flatMap fun c => if c = '\n' then ['\r', '\n'] else [c]

theorem withReturns_of_not_mem {u : List Char} (h : '\n' ∉ u) : withReturns u = u := by
  have hsame : withReturns u = u.flatMap fun c => [c] := by
    apply List.flatMap_congr
    intro c hc
    exact if_neg fun he => h (by rwa [← he])
  rw [hsame, List.flatMap_singleton']

theorem withReturns_append (u rest : List Char) :
    withReturns (u ++ '\n' :: rest) = withReturns u ++ ['\r', '\n'] ++ withReturns rest := by
  simp [withReturns]

/-- A text with a carriage return before every line feed is laid out anew, its lines under their old
numbers. -/
theorem relaid_withReturns (source : List Char) : Relaid id source (withReturns source) := by
  by_cases h : '\n' ∈ source
  · obtain ⟨u, rest, rfl, hu⟩ := List.eq_append_cons_of_mem h
    have hshorter : rest.length < (u ++ '\n' :: rest).length := by simp; omega
    have hline := Relaid.line hu .nil .nil (Or.inl rfl) (Or.inr rfl) (relaid_withReturns rest)
    rw [withReturns_append, withReturns_of_not_mem hu]
    simpa [behindFirst_id] using hline
  · rw [withReturns_of_not_mem h]
    by_cases hne : source = []
    · exact hne ▸ .nil
    · simpa using Relaid.last h hne .nil .nil
termination_by source.length

section Compile

variable {α : Type}

/-- Errors are put in the order of their lines before or after these are renumbered. -/
theorem Failure.ofErrors_renumber {moved : Nat → Nat} (h : StrictMono moved)
    (errors : List LineError) :
    Failure.ofErrors (errors.map (·.renumber moved)) =
      ⟨(Failure.ofErrors errors).errors.map (·.renumber moved)⟩ := by
  rw [ofErrors, ofErrors]
  congr 1
  refine (List.map_mergeSort fun a _ b _ => ?_).symm
  exact decide_eq_decide.mpr h.le_iff_le.symm

theorem Progress.finish_renumber {moved : Nat → Nat} (h : StrictMono moved) (p : Progress α)
    (title : String) :
    (p.renumber moved).finish title =
      (p.finish title).mapError fun e => ⟨e.errors.map (·.renumber moved)⟩ := by
  rw [finish_eq, finish_eq, allErrors_renumber, diagram_renumber, List.isEmpty_map]
  split_ifs
  · rfl
  · exact congrArg Except.error (Failure.ofErrors_renumber h _)

variable [Scalar α]

/-- Source that is laid out anew compiles to the same diagram, or fails with the same errors in the
same order: each has its message and text, and the new number of its line. The numbers grow as
before, and under the new number of a line stands that line. -/
theorem compile_relaid {title source other : String} {moved : Nat → Nat}
    (h : Relaid moved source.toList other.toList) :
    (compile title other : Except Failure (Diagram α)) =
      (compile title source).mapError (fun e =>
        ⟨e.errors.map fun error => { error with line := moved error.line }⟩) ∧
    StrictMono moved ∧
    ∀ index u, (Text.lines source.toList)[index]? = some u →
      ∃ place v, moved (index + 1) = place + 1 ∧ (Text.lines other.toList)[place]? = some v ∧
        Text.trim v = Text.trim u := by
  have hlines := h.lines
  refine ⟨?_, hlines.strictMono, fun index u hu => hlines.exists_line hu⟩
  have hrun : (sourceLines other.toList).foldl Progress.step ({} : Progress α) =
      ((sourceLines source.toList).foldl Progress.step ({} : Progress α)).renumber moved := by
    rw [Progress.renumber_run, sourceLines_eq, sourceLines_eq, hlines.statementsFrom_eq]
    rfl
  rw [compile, hrun]
  exact Progress.finish_renumber hlines.strictMono _ title

/-- A block that is not closed. -/
def unclosedBlock : String :=
  "container c: \"\" type=vpc x=0 y=0 width=9 height=9 \x7b\n  node web: \"\" icon=server x=1 y=1"

/-- A link to a node that does not exist, above the block. -/
def openShop : String := "web -> ghost\n" ++ unclosedBlock

/-- The same with a comment and a blank line, other line ends and other white space. -/
def roomyShop : String :=
  "// shop\n\tweb -> ghost \r\n  \n" ++ String.ofList (withReturns unclosedBlock.toList)

theorem compile_relaid_shop : ∃ moved : Nat → Nat,
    Relaid moved openShop.toList roomyShop.toList ∧ [1, 2, 3].map moved = [2, 4, 5] ∧
    (compile "Shop" roomyShop : Except Failure (Diagram Float)) =
      (compile "Shop" openShop).mapError (fun e =>
        ⟨e.errors.map fun error => { error with line := moved error.line }⟩) ∧
    StrictMono moved ∧
    ∀ index u, (Text.lines openShop.toList)[index]? = some u →
      ∃ place v, moved (index + 1) = place + 1 ∧ (Text.lines roomyShop.toList)[place]? = some v ∧
        Text.trim v = Text.trim u := by
  have hcomment : IsIdle "// shop".toList :=
    ⟨by decide, [], "// shop".toList, rfl, .nil, Or.inr (by decide)⟩
  have hblank : IsIdle [' ', ' '] :=
    ⟨by decide, [' ', ' '], [], rfl,
      .cons (by decide) (by decide) (.cons (by decide) (by decide) .nil), Or.inl rfl⟩
  have hlink : Relaid (behindFirst fun n => id n + 1)
      ("web -> ghost".toList ++ ['\n'] ++ unclosedBlock.toList)
      (['\t'] ++ "web -> ghost".toList ++ [' '] ++ ['\r', '\n'] ++
        ([' ', ' '] ++ ['\n'] ++ withReturns unclosedBlock.toList)) :=
    .line (by decide) (.cons (by decide) (by decide) .nil)
      (.cons (by decide) (by decide) .nil) (Or.inl rfl)
      (Or.inr rfl) (.above hblank (Or.inl rfl) (relaid_withReturns unclosedBlock.toList))
  have hopen (later : String) : ("web -> ghost\n" ++ later).toList =
      "web -> ghost".toList ++ ['\n'] ++ later.toList := by simp
  have hroomy (later : List Char) :
      ("// shop\n\tweb -> ghost \r\n  \n" ++ String.ofList later).toList =
      "// shop".toList ++ ['\n'] ++ (['\t'] ++ "web -> ghost".toList ++ [' '] ++ ['\r', '\n'] ++
        ([' ', ' '] ++ ['\n'] ++ later)) := by simp
  have h := Relaid.above hcomment (Or.inl rfl) hlink
  rw [← hopen, ← hroomy] at h
  exact ⟨_, h, rfl, compile_relaid h⟩

end Compile

end ArchDiagram.Source
