import Mathlib.Data.List.Basic
import ArchDiagram.Text.Runs

namespace ArchDiagram.Text

section Runs

variable {p : Char → Bool} {c d : Char} {rest : List Char}

theorem runs_cons_of_neg (h : p c = false) : runs p (c :: rest) = runs p rest := by
  simp [runs, h]

theorem runs_singleton (h : p c = true) : runs p [c] = [[c]] := by
  simp [runs, h]

theorem exists_runs (h : p c = true) (rest : List Char) :
    ∃ run later, runs p (c :: rest) = run :: later := by
  cases rest with
  | nil => exact ⟨[c], [], runs_singleton h⟩
  | cons d rest =>
    rw [runs.eq_def]
    simp only [h, if_true]
    cases runs p (d :: rest) with
    | nil => exact ⟨_, _, rfl⟩
    | cons run later =>
      change ∃ first others, (if p d = true then _ else _) = first :: others
      split_ifs <;> exact ⟨_, _, rfl⟩

/-- A run goes on as long as the characters are of its kind. -/
theorem runs_cons_of_pos {run : List Char} {later : List (List Char)} (hc : p c = true)
    (hd : p d = true) (h : runs p (d :: rest) = run :: later) :
    runs p (c :: d :: rest) = (c :: run) :: later := by
  rw [runs.eq_def]
  simp only [hc, hd, h, if_true]

theorem runs_cons_of_stop (hc : p c = true) (hd : p d = false) :
    runs p (c :: d :: rest) = [c] :: runs p (d :: rest) := by
  rw [runs.eq_def]
  cases hruns : runs p (d :: rest) <;> simp [hc, hd, hruns]

end Runs

/-- The parts are the maximal runs of one kind of characters in a text. Other characters stand
between two of them, and only such ones before the first and behind the last. -/
inductive AreRuns (p : Char → Bool) : List Char → List (List Char) → Prop
  | none {gap : List Char} (hgap : ∀ c ∈ gap, p c = false) : AreRuns p gap []
  | run {gap run rest : List Char} {parts : List (List Char)}
      (hgap : ∀ c ∈ gap, p c = false) (hne : run ≠ [])
      (hrun : ∀ c ∈ run, p c = true) (hstop : ∀ c ∈ rest.head?, p c = false)
        (hrest : AreRuns p rest parts) :
      AreRuns p (gap ++ (run ++ rest)) (run :: parts)

section MaximalRuns

variable {p : Char → Bool} {c d : Char} {s gap run rest : List Char}
  {parts later : List (List Char)}

/-- A character of another kind joins the gap at the front. -/
theorem AreRuns.cons_of_neg (hc : p c = false) (h : AreRuns p s parts) :
    AreRuns p (c :: s) parts := by
  cases h with
  | none hgap => exact .none (List.forall_mem_cons.mpr ⟨hc, hgap⟩)
  | run hgap hne hrun hstop hrest =>
    rw [← List.cons_append]
    exact .run (List.forall_mem_cons.mpr ⟨hc, hgap⟩) hne hrun hstop hrest

/-- The text may begin with a run. -/
theorem AreRuns.front (hne : run ≠ []) (hrun : ∀ c ∈ run, p c = true)
    (hstop : ∀ c ∈ rest.head?, p c = false) (h : AreRuns p rest parts) :
    AreRuns p (run ++ rest) (run :: parts) := by
  change AreRuns p ([] ++ (run ++ rest)) (run :: parts)
  exact .run (by simp) hne hrun hstop h

theorem AreRuns.cons_of_pos (hc : p c = true) (hd : p d = true)
    (h : AreRuns p (d :: s) (run :: later)) :
    AreRuns p (c :: d :: s) ((c :: run) :: later) := by
  generalize htext : d :: s = text at h
  cases h with
  | @run gap _ rest _ hgap hne hrun hstop hrest =>
    -- the first run begins at the first character, which is of its kind
    cases gap with
    | nil => exact hrest.front (List.cons_ne_nil c run) (List.forall_mem_cons.mpr ⟨hc, hrun⟩) hstop
    | cons e gap =>
      obtain ⟨rfl, -⟩ := List.cons.inj htext
      rw [hgap d (by simp)] at hd
      contradiction

theorem areRuns_runs (p : Char → Bool) (s : List Char) : AreRuns p s (runs p s) := by
  induction s with
  | nil => exact .none (by simp)
  | cons c rest ih =>
    cases hc : p c with
    | false =>
      rw [runs_cons_of_neg hc]
      exact ih.cons_of_neg hc
    | true =>
      cases rest with
      | nil =>
        rw [runs_singleton hc]
        exact ih.front (List.cons_ne_nil c []) (by simpa using hc) (by simp)
      | cons d rest =>
        cases hd : p d with
        | true =>
          obtain ⟨run, later, hruns⟩ := exists_runs hd rest
          rw [hruns] at ih
          rw [runs_cons_of_pos hc hd hruns]
          exact ih.cons_of_pos hc hd
        | false =>
          rw [runs_cons_of_stop hc hd]
          exact ih.front (List.cons_ne_nil c []) (by simpa using hc) (by simpa using hd)

theorem runs_gap_append (h : ∀ c ∈ gap, p c = false) (s : List Char) :
    runs p (gap ++ s) = runs p s := by
  induction gap with
  | nil => rfl
  | cons c gap ih =>
    rw [List.cons_append, runs_cons_of_neg (h c (by simp))]
    exact ih fun d hd => h d (by simp [hd])

theorem runs_run_append (hne : run ≠ []) (hrun : ∀ c ∈ run, p c = true)
    (hstop : ∀ c ∈ rest.head?, p c = false) :
    runs p (run ++ rest) = run :: runs p rest := by
  induction run with
  | nil => contradiction
  | cons c run ih =>
    have hc := hrun c (by simp)
    cases run with
    | nil =>
      cases rest with
      | nil => simp [runs_singleton hc, runs]
      | cons d rest => exact runs_cons_of_stop hc (hstop d rfl)
    | cons d run =>
      have hlater := ih (List.cons_ne_nil d run) fun e he => hrun e (by simp [he])
      exact runs_cons_of_pos hc (hrun d (by simp)) hlater

theorem AreRuns.runs_eq (h : AreRuns p s parts) : runs p s = parts := by
  induction h with
  | @none gap hgap => simpa [runs] using runs_gap_append hgap []
  | run hgap hne hrun hstop _ ih => rw [runs_gap_append hgap, runs_run_append hne hrun hstop, ih]

theorem areRuns_iff : AreRuns p s parts ↔ parts = runs p s := by
  constructor
  · intro h
    exact h.runs_eq.symm
  · rintro rfl
    exact areRuns_runs p s

theorem AreRuns.eq_nil_iff (h : AreRuns p s parts) : parts = [] ↔ s.any p = false := by
  cases h with
  | none hgap => simpa using hgap
  | run _ hne hrun _ _ =>
    obtain ⟨c, run, rfl⟩ := List.exists_cons_of_ne_nil hne
    simp [hrun c (by simp)]

theorem AreRuns.mem (h : AreRuns p s parts) (hr : run ∈ parts) :
    run ≠ [] ∧ ∀ c ∈ run, c ∈ s ∧ p c = true := by
  induction h with
  | none => contradiction
  | run _ hne hrun _ _ ih =>
    rcases List.mem_cons.mp hr with rfl | hr
    · exact ⟨hne, fun c hc => ⟨by simp [hc], hrun c hc⟩⟩
    · obtain ⟨hsome, hchars⟩ := ih hr
      exact ⟨hsome, fun c hc => ⟨by simp [(hchars c hc).1], (hchars c hc).2⟩⟩

theorem mem_runs (h : run ∈ runs p s) : run ≠ [] ∧ ∀ c ∈ run, c ∈ s ∧ p c = true :=
  (areRuns_runs p s).mem h

/-- The runs are no longer than the text. -/
theorem length_flatten_runs (p : Char → Bool) (s : List Char) :
    (runs p s).flatten.length ≤ s.length := by
  have hs := areRuns_runs p s
  generalize runs p s = parts at hs
  induction hs with
  | none => simp
  | run _ _ _ _ _ ih =>
    simp only [List.flatten_cons, List.length_append]
    omega

end MaximalRuns

section Slices

theorem dropBytes_append (s t : List Char) : dropBytes (byteLength s) (s ++ t) = t := by
  induction s with
  | nil =>
    cases t <;> simp [byteLength, dropBytes]
  | cons c s ih =>
    have hsize := c.utf8Size_pos
    have hne : ¬ c.utf8Size + byteLength s = 0 := by omega
    rw [byteLength, List.cons_append, dropBytes, if_neg hne, Nat.add_sub_cancel_left, ih]

theorem takeBytes_zero (s : List Char) : takeBytes 0 s = [] := by
  cases s <;> simp [takeBytes]

theorem takeBytes_cons {n : Nat} (h : 0 < n) (c : Char) (rest : List Char) :
    takeBytes n (c :: rest) = c :: takeBytes (n - c.utf8Size) rest := by
  rw [takeBytes, if_neg (by omega)]

theorem takeBytes_sublist (n : Nat) (s : List Char) : (takeBytes n s).Sublist s := by
  induction s generalizing n with
  | nil => simp [takeBytes]
  | cons c s ih =>
    rw [takeBytes]
    split_ifs
    · exact List.nil_sublist _
    · exact (ih _).cons_cons c

theorem dropBytes_sublist (n : Nat) (s : List Char) : (dropBytes n s).Sublist s := by
  induction s generalizing n with
  | nil => simp [dropBytes]
  | cons c s ih =>
    rw [dropBytes]
    split_ifs
    · exact List.Sublist.refl _
    · exact (ih _).cons c

theorem slice_sublist (s : List Char) (start stop : Nat) : (slice s start stop).Sublist s :=
  (takeBytes_sublist _ _).trans (dropBytes_sublist _ _)

end Slices

section Words

variable {c d : Char} {rest : List Char} {offset : Nat}

theorem wordsFrom_cons_of_neg (h : isAlphanumeric c = false) :
    wordsFrom offset (c :: rest) = wordsFrom (offset + c.utf8Size) rest := by
  simp [wordsFrom, h]

theorem wordsFrom_singleton (h : isAlphanumeric c = true) :
    wordsFrom offset [c] = [⟨offset, offset + c.utf8Size⟩] := by
  simp [wordsFrom, h]

theorem wordsFrom_cons_of_pos {word : Span} {later : List Span} (hc : isAlphanumeric c = true)
    (hd : isAlphanumeric d = true)
    (h : wordsFrom (offset + c.utf8Size) (d :: rest) = word :: later) :
    wordsFrom offset (c :: d :: rest) = ⟨offset, word.stop⟩ :: later := by
  rw [wordsFrom.eq_def]
  simp only [hc, hd, h, if_true]

theorem wordsFrom_cons_of_stop (hc : isAlphanumeric c = true) (hd : isAlphanumeric d = false) :
    wordsFrom offset (c :: d :: rest) =
      ⟨offset, offset + c.utf8Size⟩ :: wordsFrom (offset + c.utf8Size) (d :: rest) := by
  rw [wordsFrom.eq_def]
  cases hwords : wordsFrom (offset + c.utf8Size) (d :: rest) <;> simp [hc, hd, hwords]

/-- A text that begins with a word character begins with a word. -/
theorem exists_wordsFrom (h : isAlphanumeric c = true) (offset : Nat) (rest : List Char) :
    ∃ stop later, wordsFrom offset (c :: rest) = ⟨offset, stop⟩ :: later ∧ offset < stop := by
  induction rest generalizing c offset with
  | nil => exact ⟨_, _, wordsFrom_singleton h, Nat.lt_add_of_pos_right c.utf8Size_pos⟩
  | cons d rest ih =>
    cases hd : isAlphanumeric d with
    | true =>
      obtain ⟨stop, later, hwords, hlt⟩ := ih hd (offset + c.utf8Size)
      exact ⟨stop, later, wordsFrom_cons_of_pos h hd hwords, by omega⟩
    | false => exact ⟨_, _, wordsFrom_cons_of_stop h hd, Nat.lt_add_of_pos_right c.utf8Size_pos⟩

theorem slice_append (s t : List Char) (stop : Nat) :
    slice (s ++ t) (byteLength s) stop = takeBytes (stop - byteLength s) t := by
  rw [slice, dropBytes_append]

/-- The first character of a slice. -/
theorem slice_cons (s : List Char) (c : Char) (rest : List Char) {stop : Nat}
    (h : byteLength s < stop) :
    slice (s ++ c :: rest) (byteLength s) stop =
      c :: takeBytes (stop - (byteLength s + c.utf8Size)) rest := by
  rw [slice_append, takeBytes_cons (by omega), Nat.sub_sub]

theorem map_slice_wordsFrom (before s : List Char) :
    (wordsFrom (byteLength before) s).map (fun word => slice (before ++ s) word.start word.stop) =
      runs isAlphanumeric s := by
  induction s generalizing before with
  | nil => rfl
  | cons c rest ih =>
    have hnext : byteLength (before ++ [c]) = byteLength before + c.utf8Size := by
      simp [byteLength_append, byteLength]
    have hrest := ih (before ++ [c])
    rw [hnext, List.append_assoc, List.singleton_append] at hrest
    have hone : slice (before ++ c :: rest) (byteLength before) (byteLength before + c.utf8Size) =
        [c] := by
      rw [slice_cons _ _ _ (Nat.lt_add_of_pos_right c.utf8Size_pos), Nat.sub_self, takeBytes_zero]
    cases hc : isAlphanumeric c with
    | false => rw [wordsFrom_cons_of_neg hc, runs_cons_of_neg hc, hrest]
    | true =>
      cases rest with
      | nil => rw [wordsFrom_singleton hc, runs_singleton hc, List.map_singleton, hone]
      | cons d rest =>
        cases hd : isAlphanumeric d with
        | true =>
          obtain ⟨stop, later, hwords, hlt⟩ :=
            exists_wordsFrom hd (byteLength before + c.utf8Size) rest
          obtain ⟨run, others, hruns⟩ := exists_runs hd rest
          rw [hwords, hruns, List.map_cons] at hrest
          injection hrest with hfirst hlater
          -- the first word of the rest is the slice behind the new character
          have hlonger : byteLength before < stop := by omega
          have htail : takeBytes (stop - (byteLength before + c.utf8Size)) (d :: rest) = run := by
            rw [← hfirst, ← hnext, ← slice_append, List.append_assoc, List.singleton_append]
          rw [wordsFrom_cons_of_pos hc hd hwords, runs_cons_of_pos hc hd hruns, List.map_cons,
            hlater, slice_cons _ _ _ hlonger, htail]
        | false =>
          rw [wordsFrom_cons_of_stop hc hd, runs_cons_of_stop hc hd, List.map_cons, hone, hrest]

/-- The words of a text are its maximal runs of word characters. -/
theorem map_slice_words (s : List Char) :
    (words s).map (fun word => slice s word.start word.stop) = runs isAlphanumeric s :=
  map_slice_wordsFrom [] s

theorem isAlphanumeric_of_mem_word {s : List Char} {word : Span} (hw : word ∈ words s) {c : Char}
    (hc : c ∈ slice s word.start word.stop) : isAlphanumeric c = true := by
  have hrun : slice s word.start word.stop ∈ runs isAlphanumeric s := by
    rw [← map_slice_words]
    exact List.mem_map_of_mem hw
  exact ((mem_runs hrun).2 c hc).2

end Words

end ArchDiagram.Text
