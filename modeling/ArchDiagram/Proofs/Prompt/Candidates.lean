import ArchDiagram.Proofs.Text.Trim
import ArchDiagram.Proofs.Text.Words
import ArchDiagram.Prompt.Mention

namespace ArchDiagram.Prompt

open Text (OccursAt IsRigid Neighbors Cut IsStretch byteLength)

/-- A phrase of the vocabulary that stands word-bounded in the text. -/
def IsTermMention (lower : List Char) (m : Mention) : Prop :=
  ∃ term ∈ terms, ∃ start, OccursAt lower term.phrase.toList start ∧
    m = ⟨start, start + byteLength term.phrase.toList, term.name, term.icon⟩

/-- A word, a gap and a noun name a component: the gap is white space, the noun a system noun, and
the word has two bytes or more, not digits alone, and is no stopword, no system noun and no phrase
of the vocabulary. -/
structure Qualifies (word gap noun : List Char) : Prop where
  noun : String.ofList noun ∈ systemNouns
  gap : ∀ c ∈ gap, Text.isBlank c = true
  long : 2 ≤ byteLength word
  stopword : String.ofList word ∉ stopwords
  otherNoun : String.ofList word ∉ systemNouns
  term : ∀ term ∈ terms, term.phrase ≠ String.ofList word
  letter : ∃ c ∈ word, c.isDigit = false

/-- Two neighbouring words of the text that name a component. -/
def IsNounMention (lower : List Char) (m : Mention) : Prop :=
  ∃ before word gap noun after, Neighbors lower before word gap noun after ∧
  Qualifies word gap noun ∧
    m = ⟨byteLength before, byteLength (before ++ word ++ gap ++ noun),
      String.ofList (Text.titleCase (word ++ [' '] ++ noun)), nounIcon (String.ofList noun)⟩

/-- All candidates, in the order in which they are found. -/
def candidates (lower : List Char) : List Mention := termMentions lower ++ nounMentions lower

section Membership

variable {lower : List Char} {m : Mention}

/-- No phrase of the vocabulary is empty, and none overlaps itself behind a space or a hyphen. -/
theorem rigid_terms : ∀ term ∈ terms, IsRigid term.phrase.toList ∧ term.phrase.toList ≠ [] := by
  decide +kernel

theorem mem_termMentions_iff : m ∈ termMentions lower ↔ IsTermMention lower m := by
  simp only [termMentions, IsTermMention, List.mem_flatMap, List.mem_map]
  refine exists_congr fun term => and_congr_right fun hterm => exists_congr fun start => ?_
  obtain ⟨hrigid, hne⟩ := rigid_terms term hterm
  rw [Text.mem_phraseMatches_iff hrigid hne, eq_comm]

theorem qualifies_iff {word gap noun : List Char} : Qualifies word gap noun ↔
    (systemNouns.contains (String.ofList noun) && (Text.trim gap).isEmpty && 2 ≤ byteLength word &&
      !stopwords.contains (String.ofList word) && !systemNouns.contains (String.ofList word) &&
      !isTerm (String.ofList word) && !word.all Char.isDigit) = true := by
  simp only [isTerm, Bool.and_eq_true, decide_eq_true_eq, Bool.not_eq_true', List.contains_eq_mem,
    decide_eq_false_iff_not, List.any_eq_false, List.all_eq_false, beq_iff_eq, Bool.not_eq_true,
    List.isEmpty_iff, Text.trim_eq_nil_iff]
  constructor
  · intro h
    exact ⟨⟨⟨⟨⟨⟨h.noun, h.gap⟩, h.long⟩, h.stopword⟩, h.otherNoun⟩, h.term⟩, h.letter⟩
  · intro h
    obtain ⟨⟨⟨⟨⟨⟨hnoun, hgap⟩, hlong⟩, hstop⟩, hother⟩, hterm⟩, hletter⟩ := h
    exact ⟨hnoun, hgap, hlong, hstop, hother, hterm, hletter⟩

theorem nounMention?_eq_some_iff {before word gap noun after : List Char}
    (h : Neighbors lower before word gap noun after) :
    nounMention? lower ⟨byteLength before, byteLength (before ++ word)⟩
        ⟨byteLength (before ++ word ++ gap), byteLength (before ++ word ++ gap ++ noun)⟩ = some m ↔
      Qualifies word gap noun ∧ m = ⟨byteLength before, byteLength (before ++ word ++ gap ++ noun),
        String.ofList (Text.titleCase (word ++ [' '] ++ noun)), nounIcon (String.ofList noun)⟩ := by
  have hword : Cut lower (byteLength before) (byteLength (before ++ word)) before word
      (gap ++ noun ++ after) :=
    ⟨by simp [h.text], rfl, rfl⟩
  have hgap : Cut lower (byteLength (before ++ word)) (byteLength (before ++ word ++ gap))
      (before ++ word) gap
      (noun ++ after) := ⟨by simp [h.text], rfl, rfl⟩
  have hnoun :
      Cut lower (byteLength (before ++ word ++ gap)) (byteLength (before ++ word ++ gap ++ noun))
      (before ++ word ++ gap) noun after := ⟨by simp [h.text], rfl, rfl⟩
  simp only [nounMention?, hword.slice_eq, hgap.slice_eq, hnoun.slice_eq, String.toList_ofList]
  rw [qualifies_iff]
  split_ifs with hc
  · simp only [hc, true_and, Option.some.injEq]
    exact eq_comm
  · simp only [hc, Bool.false_eq_true, false_and]

theorem mem_nounMentions_iff : m ∈ nounMentions lower ↔ IsNounMention lower m := by
  rw [nounMentions, List.mem_filterMap]
  constructor
  · intro h
    obtain ⟨⟨first, second⟩, hpair, hm⟩ := h
    obtain ⟨before, word, gap, noun, after, hn, rfl, rfl⟩ := Text.mem_neighbors_iff.mp hpair
    exact ⟨before, word, gap, noun, after, hn, (nounMention?_eq_some_iff hn).mp hm⟩
  · intro h
    obtain ⟨before, word, gap, noun, after, hn, hm⟩ := h
    exact ⟨_, Text.mem_neighbors_iff.mpr ⟨before, word, gap, noun, after, hn, rfl, rfl⟩,
      (nounMention?_eq_some_iff hn).mpr hm⟩

theorem mem_candidates_iff :
    m ∈ candidates lower ↔ IsTermMention lower m ∨ IsNounMention lower m := by
  rw [candidates, List.mem_append, mem_termMentions_iff, mem_nounMentions_iff]

/-- One stretch may be both, under two names. -/
example : (candidates "vector store".toList).map (·.name) = ["Vector DB", "Vector Store"] := by
  decide +kernel

end Membership

section Stretches

variable {lower : List Char} {m : Mention}

theorem IsTermMention.stretch (h : IsTermMention lower m) :
    IsStretch lower m.start m.stop ∧ m.start < m.stop := by
  obtain ⟨term, hterm, start, ⟨before, after, htext, hstart, -⟩, rfl⟩ := h
  have hcut :
      Cut lower start (start + byteLength term.phrase.toList) before term.phrase.toList after :=
    ⟨htext, hstart, by rw [Text.byteLength_append, hstart]⟩
  exact ⟨hcut.isStretch, Nat.lt_add_of_pos_right (Text.byteLength_pos (rigid_terms term hterm).2)⟩

theorem IsNounMention.stretch (h : IsNounMention lower m) :
    IsStretch lower m.start m.stop ∧ m.start < m.stop := by
  obtain ⟨before, word, gap, noun, after, hn, -, rfl⟩ := h
  have hcut : Cut lower (byteLength before) (byteLength (before ++ word ++ gap ++ noun)) before
      (word ++ gap ++ noun) after := ⟨by simp [hn.text], rfl, by simp only [List.append_assoc]⟩
  refine ⟨hcut.isStretch, ?_⟩
  have hpos := Text.byteLength_pos hn.first.1
  simp only [Text.byteLength_append]
  omega

/-- A candidate is a stretch of the text that is not empty. -/
theorem stretch_of_mem_candidates (h : m ∈ candidates lower) :
    IsStretch lower m.start m.stop ∧ m.start < m.stop := by
  rcases mem_candidates_iff.mp h with hm | hm
  · exact hm.stretch
  · exact hm.stretch

end Stretches

end ArchDiagram.Prompt
