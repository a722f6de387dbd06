import ArchDiagram.Proofs.Prompt.Settling
import ArchDiagram.Proofs.Text.Naming
import ArchDiagram.Prompt.Mention

namespace ArchDiagram.Prompt

variable {lower : List Char} {m : Mention}

theorem mem_mentions (h : m ∈ mentions lower) :
    m ∈ termMentions lower ∨ m ∈ nounMentions lower := by
  rw [mentions, List.mem_mergeSort] at h
  have hm := (settled_sublist Mention.overlaps _).subset h
  rwa [List.mem_mergeSort, List.mem_append] at hm

/-- A name of spaces and characters behind the quote mark, not longer than a limit. -/
structure PlainName (limit : Nat) (name : String) : Prop where
  chars : ∀ c ∈ name.toList, c = ' ' ∨ 0x22 < c.toNat
  short : name.toList.length ≤ limit

theorem plainName_term : ∀ term ∈ terms, PlainName 40 term.name := by
  have hchars :
      (terms.all fun term => term.name.toList.all fun c => c = ' ' || 0x22 < c.toNat) = true := by
    decide +kernel
  have hshort : (terms.all fun term => term.name.toList.length ≤ 40) = true := by decide +kernel
  intro term hm
  refine ⟨fun c hc => ?_, by simpa using List.all_eq_true.mp hshort term hm⟩
  simpa using List.all_eq_true.mp (List.all_eq_true.mp hchars term hm) c hc

theorem toNat_of_isAlphanumeric {c : Char} (h : Text.isAlphanumeric c = true) : 0x22 < c.toNat := by
  rw [Text.isAlphanumeric] at h
  split_ifs at h with hlow
  · have hascii :=
      Text.of_ascii (p := fun c => !c.isAlphanum || 0x22 < c.toNat) (by decide +kernel) hlow
    simpa [h] using hascii
  · omega

theorem systemNouns_plain :
    ∀ noun ∈ systemNouns, noun.toList.length ≤ 9 ∧ ∀ c ∈ noun.toList, 0x22 < c.toNat := by
  have hshort : (systemNouns.all fun noun => noun.toList.length ≤ 9) = true := by decide +kernel
  have hchars : (systemNouns.all fun noun => noun.toList.all fun c => 0x22 < c.toNat) = true := by
    decide +kernel
  intro noun hm
  refine ⟨by simpa using List.all_eq_true.mp hshort noun hm, fun c hc => ?_⟩
  simpa using List.all_eq_true.mp (List.all_eq_true.mp hchars noun hm) c hc

theorem plainName_noun {first second : Text.Span} (hfirst : first ∈ Text.words lower)
    (h : nounMention? lower first second = some m) :
    PlainName (4 * (lower.length + 10)) m.name := by
  simp only [nounMention?] at h
  split_ifs at h with hcond
  obtain rfl := Option.some.inj h
  have hnoun : String.ofList (Text.slice lower second.start second.stop) ∈ systemNouns := by
    simp only [Bool.and_eq_true, List.contains_iff_mem] at hcond
    exact hcond.1.1.1.1.1.1
  obtain ⟨hlength, hchars⟩ := systemNouns_plain _ hnoun
  have hword := (Text.slice_sublist lower first.start first.stop).length_le
  refine ⟨fun c hc => ?_, ?_⟩
  · rw [String.toList_ofList] at hc
    refine Text.mem_titleCase (fun d hd => ?_) hc
    rw [List.mem_append, List.mem_append] at hd
    rcases hd with (hd | hd) | hd
    · exact Or.inr (toNat_of_isAlphanumeric (Text.isAlphanumeric_of_mem_word hfirst hd))
    · exact Or.inl (List.mem_singleton.mp hd)
    · exact Or.inr (hchars d hd)
  · rw [String.toList_ofList]
    have htitle := Text.length_titleCase (Text.slice lower first.start first.stop ++ [' '] ++
      (String.ofList (Text.slice lower second.start second.stop)).toList)
    rw [List.length_append, List.length_append, List.length_singleton] at htitle
    omega

/-- The text that a user types reaches a name only through words. -/
theorem plainName_mention (h : m ∈ mentions lower) :
    PlainName (4 * (lower.length + 10)) m.name := by
  rcases mem_mentions h with hm | hm
  · obtain ⟨term, hterm, hm⟩ := List.mem_flatMap.mp hm
    obtain ⟨start, -, rfl⟩ := List.mem_map.mp hm
    obtain ⟨hchars, hshort⟩ := plainName_term term hterm
    exact ⟨hchars, Nat.le_trans hshort (by omega)⟩
  · obtain ⟨⟨first, second⟩, hpair, hm⟩ := List.mem_filterMap.mp hm
    exact plainName_noun (List.of_mem_zip hpair).1 hm

end ArchDiagram.Prompt
