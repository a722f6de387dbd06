import Mathlib.Data.List.TakeWhile
import ArchDiagram.Proofs.Text.Phrase

namespace ArchDiagram.Text

/-- The middle one of three parts is a word. -/
structure IsWord (before word after : List Char) : Prop where
  nonempty : word ≠ []
  letters : ∀ c ∈ word, isAlphanumeric c = true
  bounded : Bounded before after

section Parts

variable {u v w gap rest : List Char} {offset : Nat}

/-- Where no run goes on, the words of a text are those of its two parts. -/
theorem wordsFrom_append
    (h : ∀ c ∈ u.getLast?, ∀ d ∈ v.head?, isAlphanumeric c = true → isAlphanumeric d = false)
    (offset : Nat) :
    wordsFrom offset (u ++ v) = wordsFrom offset u ++ wordsFrom (offset + byteLength u) v := by
  induction u generalizing offset with
  | nil => rfl
  | cons c u ih =>
    have hlater (hne : u ≠ []) : wordsFrom (offset + c.utf8Size) (u ++ v) =
        wordsFrom (offset + c.utf8Size) u ++ wordsFrom (offset + byteLength (c :: u)) v := by
      rw [byteLength, ← Nat.add_assoc]
      apply ih
      obtain ⟨d, rest, rfl⟩ := List.exists_cons_of_ne_nil hne
      rwa [List.getLast?_cons_cons] at h
    cases hc : isAlphanumeric c with
    | false =>
      rw [List.cons_append, wordsFrom_cons_of_neg hc, wordsFrom_cons_of_neg hc]
      by_cases hne : u = []
      · subst hne
        simp [wordsFrom, byteLength]
      · exact hlater hne
    | true =>
      cases u with
      | nil =>
        cases v with
        | nil => simp [wordsFrom]
        | cons d v =>
          have hd := h c rfl d rfl hc
          rw [List.singleton_append, wordsFrom_cons_of_stop hc hd, wordsFrom_singleton hc]
          rfl
      | cons d u =>
        have hlater := hlater (List.cons_ne_nil d u)
        cases hd : isAlphanumeric d with
        | true =>
          obtain ⟨stop, later, hwords, -⟩ := exists_wordsFrom hd (offset + c.utf8Size) u
          rw [hwords, List.cons_append, List.cons_append] at hlater
          rw [wordsFrom_cons_of_pos hc hd hwords, List.cons_append, List.cons_append,
            wordsFrom_cons_of_pos hc hd hlater, List.cons_append]
        | false =>
          rw [List.cons_append] at hlater
          rw [List.cons_append, List.cons_append, wordsFrom_cons_of_stop hc hd,
            wordsFrom_cons_of_stop hc hd, hlater, List.cons_append]

theorem wordsFrom_gap (h : ∀ c ∈ gap, isAlphanumeric c = false) (offset : Nat) :
    wordsFrom offset gap = [] := by
  induction gap generalizing offset with
  | nil => rfl
  | cons c gap ih =>
    rw [wordsFrom_cons_of_neg (h c (by simp))]
    exact ih (fun d hd => h d (by simp [hd])) _

theorem wordsFrom_word (hne : w ≠ []) (h : ∀ c ∈ w, isAlphanumeric c = true) (offset : Nat) :
    wordsFrom offset w = [⟨offset, offset + byteLength w⟩] := by
  induction w generalizing offset with
  | nil => contradiction
  | cons c w ih =>
    have hc := h c (by simp)
    cases w with
    | nil => rw [wordsFrom_singleton hc]; rfl
    | cons d w =>
      have hrest :=
        ih (List.cons_ne_nil d w) (fun e he => h e (List.mem_cons_of_mem c he))
          (offset + c.utf8Size)
      rw [wordsFrom_cons_of_pos hc (h d (by simp)) hrest, Nat.add_assoc]
      rfl

/-- The words of a text that begins with a gap and a word. -/
theorem wordsFrom_gap_word (hgap : ∀ c ∈ gap, isAlphanumeric c = false) (hne : w ≠ [])
    (hw : ∀ c ∈ w, isAlphanumeric c = true) (hrest : ∀ c ∈ rest.head?, isAlphanumeric c = false)
    (offset : Nat) :
    wordsFrom offset (gap ++ (w ++ rest)) =
      ⟨offset + byteLength gap, offset + byteLength (gap ++ w)⟩ ::
        wordsFrom (offset + byteLength (gap ++ w)) rest := by
  rw [wordsFrom_append, wordsFrom_append, wordsFrom_gap hgap, wordsFrom_word hne hw,
    byteLength_append, Nat.add_assoc]
  · rfl
  · exact fun c _ d hd _ => hrest d hd
  · intro c hc d _ ha
    rw [hgap c (List.mem_of_getLast? hc)] at ha
    contradiction

/-- A text with words begins with a gap, which may be empty, and a word. -/
theorem exists_gap_word {word : Span} {later : List Span}
    (h : wordsFrom offset rest = word :: later) :
    ∃ gap w back, rest = gap ++ (w ++ back) ∧ (∀ c ∈ gap, isAlphanumeric c = false) ∧ w ≠ [] ∧
      (∀ c ∈ w, isAlphanumeric c = true) ∧ (∀ c ∈ back.head?, isAlphanumeric c = false) ∧
      word = ⟨offset + byteLength gap, offset + byteLength (gap ++ w)⟩ ∧
      later = wordsFrom (offset + byteLength (gap ++ w)) back := by
  have hrest := (rest.takeWhile_append_dropWhile (p := (!isAlphanumeric ·))).symm
  have hgap : ∀ c ∈ rest.takeWhile (!isAlphanumeric ·), isAlphanumeric c = false := fun c hc => by
    simpa using List.mem_takeWhile_imp hc
  have hfirst := rest.head?_dropWhile_not (!isAlphanumeric ·)
  generalize rest.takeWhile (!isAlphanumeric ·) = gap at hrest hgap
  generalize rest.dropWhile (!isAlphanumeric ·) = behind at hrest hfirst
  cases behind with
  | nil =>
    rw [hrest, List.append_nil, wordsFrom_gap hgap] at h
    contradiction
  | cons c behind =>
    have hc : isAlphanumeric c = true := by simpa using hfirst
    have hback : ∀ d ∈ ((c :: behind).dropWhile isAlphanumeric).head?,
        isAlphanumeric d = false := by
      intro d hd
      have hstop := (c :: behind).head?_dropWhile_not isAlphanumeric
      rwa [Option.mem_def.mp hd] at hstop
    have hw : ∀ d ∈ (c :: behind).takeWhile isAlphanumeric, isAlphanumeric d = true :=
      fun d hd => List.mem_takeWhile_imp hd
    have hne : (c :: behind).takeWhile isAlphanumeric ≠ [] := by simp [hc]
    rw [← (c :: behind).takeWhile_append_dropWhile (p := isAlphanumeric)] at hrest
    rw [hrest, wordsFrom_gap_word hgap hne hw hback] at h
    obtain ⟨rfl, rfl⟩ := List.cons.inj h
    exact ⟨gap, _, _, hrest, hgap, hne, hw, hback, rfl, rfl⟩

end Parts

section Spans

variable {s : List Char} {offset : Nat}

/-- A word among the words of a text, with what stands before and after it. -/
theorem exists_word {before : List Span} {word : Span} {later : List Span}
    (h : wordsFrom offset s = before ++ word :: later) :
    ∃ front w back, s = front ++ (w ++ back) ∧ IsWord front w back ∧
      word = ⟨offset + byteLength front, offset + byteLength (front ++ w)⟩ ∧
      later = wordsFrom (offset + byteLength (front ++ w)) back := by
  induction before generalizing offset s with
  | nil =>
    obtain ⟨gap, w, back, hs, hgap, hne, hw, hback, hword, hlater⟩ := exists_gap_word h
    exact ⟨gap, w, back, hs, ⟨hne, hw, fun c hc => hgap c (List.mem_of_getLast? hc), hback⟩, hword,
      hlater⟩
  | cons first before ih =>
    obtain ⟨gap, first, rest, hs, -, -, -, hrest, -, hlater⟩ := exists_gap_word h
    obtain ⟨front, w, back, rfl, hw, rfl, rfl⟩ := ih hlater.symm
    -- a word does not begin where the one before it ends
    have hne : front ≠ [] := by
      rintro rfl
      obtain ⟨c, w, rfl⟩ := List.exists_cons_of_ne_nil hw.nonempty
      have hc := hrest c rfl
      rw [hw.letters c (by simp)] at hc
      contradiction
    have hlast : (gap ++ first ++ front).getLast? = front.getLast? := by
      rw [List.getLast?_append, List.getLast?_eq_getLast_of_ne_nil hne]
      rfl
    refine ⟨gap ++ first ++ front, w,
      back, by simp [hs], ⟨hw.nonempty, hw.letters, ?_, hw.bounded.after⟩, ?_, ?_⟩
    · rw [hlast]
      exact hw.bounded.before
    · simp only [byteLength_append, Nat.add_assoc]
    · simp only [byteLength_append, Nat.add_assoc]

theorem wordsFrom_isWord {front w back : List Char} (h : IsWord front w back) (offset : Nat) :
    wordsFrom offset (front ++ (w ++ back)) = wordsFrom offset front ++
      ⟨offset + byteLength front, offset + byteLength (front ++ w)⟩ ::
        wordsFrom (offset + byteLength (front ++ w)) back := by
  rw [wordsFrom_append, wordsFrom_append, wordsFrom_word h.nonempty h.letters, byteLength_append,
    Nat.add_assoc]
  · rfl
  · exact fun c _ d hd _ => h.bounded.after d hd
  · intro c hc d _ ha
    rw [h.bounded.before c hc] at ha
    contradiction

/-- The words of a text are the stretches of letters and digits that cannot be made longer. -/
theorem mem_words_iff {word : Span} :
    word ∈ words s ↔ ∃ front w back, Cut s word.start word.stop front w back ∧
    IsWord front w back := by
  constructor
  · intro h
    obtain ⟨before, later, hwords⟩ := List.append_of_mem h
    obtain ⟨front, w, back, hs, hw, rfl, -⟩ := exists_word hwords
    exact ⟨front, w, back,
      ⟨by rw [hs, List.append_assoc], (Nat.zero_add _).symm, (Nat.zero_add _).symm⟩, hw⟩
  · rintro ⟨front, w, back, hcut, hw⟩
    rw [words, hcut.text, List.append_assoc, wordsFrom_isWord hw]
    have hword : word = ⟨0 + byteLength front, 0 + byteLength (front ++ w)⟩ := by
      rw [Nat.zero_add, Nat.zero_add, hcut.start, hcut.stop]
    simp [hword]

/-- Two words of a text and the gap between them. -/
structure Neighbors (s before first gap second after : List Char) : Prop where
  text : s = before ++ first ++ gap ++ second ++ after
  first : first ≠ [] ∧ ∀ c ∈ first, isAlphanumeric c = true
  gap : gap ≠ [] ∧ ∀ c ∈ gap, isAlphanumeric c = false
  second : second ≠ [] ∧ ∀ c ∈ second, isAlphanumeric c = true
  bounded : Bounded before after

/-- Neighbouring elements of a list. -/
theorem mem_zip_tail_iff {β : Type} {l : List β} {a b : β} :
    (a, b) ∈ l.zip l.tail ↔ ∃ before after, l = before ++ a :: b :: after := by
  induction l with
  | nil => simp
  | cons x l ih =>
    cases l with
    | nil => simp [List.cons_eq_append_iff]
    | cons y l =>
      rw [List.tail_cons, List.zip_cons_cons, List.mem_cons, Prod.mk.injEq]
      change _ ∨ (a, b) ∈ (y :: l).zip (y :: l).tail ↔ _
      rw [ih]
      constructor
      · rintro (⟨rfl, rfl⟩ | ⟨before, after, he⟩)
        · exact ⟨[], l, rfl⟩
        · exact ⟨x :: before, after, by rw [he]; rfl⟩
      · rintro ⟨before, after, he⟩
        cases before with
        | nil =>
          obtain ⟨rfl, rfl, -⟩ := by simpa using he
          exact Or.inl ⟨rfl, rfl⟩
        | cons z before => exact Or.inr ⟨before, after, (List.cons.inj he).2⟩

theorem mem_neighbors_iff {first second : Span} :
    (first, second) ∈ (words s).zip (words s).tail ↔
      ∃ before one gap other after, Neighbors s before one gap other after ∧
        first = ⟨byteLength before, byteLength (before ++ one)⟩ ∧
        second =
          ⟨byteLength (before ++ one ++ gap), byteLength (before ++ one ++ gap ++ other)⟩ := by
  rw [mem_zip_tail_iff]
  constructor
  · rintro ⟨l, l', hwords⟩
    obtain ⟨before, one, back, hs, hone, rfl, hlater⟩ := exists_word hwords
    obtain ⟨gap, other, after, rfl, hgap, hne, hother, hafter, rfl, -⟩ :=
      exists_gap_word hlater.symm
    have hsome : gap ≠ [] := by
      rintro rfl
      obtain ⟨c, rest, rfl⟩ := List.exists_cons_of_ne_nil hne
      have hc := hone.bounded.after c rfl
      rw [hother c (by simp)] at hc
      exact absurd hc (by decide)
    refine ⟨before, one, gap, other, after, ?_, ?_, ?_⟩
    · exact ⟨by simp [hs], ⟨hone.nonempty, hone.letters⟩, ⟨hsome, hgap⟩, ⟨hne, hother⟩,
        hone.bounded.before, hafter⟩
    · simp only [Nat.zero_add]
    · simp only [byteLength_append, Nat.zero_add, Nat.add_assoc]
  · rintro ⟨before, one, gap, other, after, h, rfl, rfl⟩
    have hone : IsWord before one (gap ++ (other ++ after)) := by
      refine ⟨h.first.1, h.first.2, h.bounded.before, fun c hc => h.gap.2 c ?_⟩
      obtain ⟨d, gap, rfl⟩ := List.exists_cons_of_ne_nil h.gap.1
      obtain rfl : d = c := by simpa using hc
      exact List.mem_cons_self
    have htext : s = before ++ (one ++ (gap ++ (other ++ after))) := by simp [h.text]
    refine ⟨wordsFrom 0 before, wordsFrom (byteLength (before ++ one ++ gap ++ other)) after, ?_⟩
    rw [words, htext, wordsFrom_isWord hone,
      wordsFrom_gap_word h.gap.2 h.second.1 h.second.2 h.bounded.after]
    simp only [byteLength_append, Nat.zero_add, Nat.add_assoc]

end Spans

end ArchDiagram.Text
