import ArchDiagram.Proofs.Decimal.Quotient
import ArchDiagram.Proofs.Exact
import ArchDiagram.Prompt.Analysis

namespace ArchDiagram.Prompt

section FirstMax

variable {β : Type} {value : β → Nat}

/-- The first of the items with the greatest value: those before it have less, and those behind it
no more. -/
def IsFirstMax (value : β → Nat) (items : List β) (best : β) : Prop :=
  ∃ before after, items = before ++ best :: after ∧ (∀ x ∈ before, value x < value best) ∧
    ∀ x ∈ after, value x ≤ value best

theorem IsFirstMax.cons {items : List β} {best x : β} (h : IsFirstMax value items best)
    (hx : value x < value best) : IsFirstMax value (x :: items) best := by
  obtain ⟨before, after, rfl, hbefore, hafter⟩ := h
  refine ⟨x :: before, after, rfl, ?_, hafter⟩
  rw [List.forall_mem_cons]
  exact ⟨hx, hbefore⟩

/-- An item takes the place of the best one so far when it has more. Nothing takes the place of the
start unless it has more than the least value. -/
theorem foldl_firstMax (value : β → Nat) (items : List β) (start : β) (least : Nat) :
    let best :=
      items.foldl (fun best x => if best.2 < value x then (x, value x) else best) (start, least)
    (best = (start, least) ∧ ∀ x ∈ items, value x ≤ least) ∨
      (IsFirstMax value items best.1 ∧ best.2 = value best.1 ∧ least < best.2) := by
  induction items generalizing start least with
  | nil => exact Or.inl ⟨rfl, by simp⟩
  | cons x items ih =>
    dsimp only at ih ⊢
    rw [List.foldl_cons]
    by_cases hx : least < value x
    · rw [if_pos hx]
      rcases ih x (value x) with ⟨hbest, hmost⟩ | ⟨hmax, hvalue, hmore⟩
      · rw [hbest]
        exact Or.inr ⟨⟨[], items, rfl, by simp, hmost⟩, rfl, hx⟩
      · rw [hvalue] at hmore
        exact Or.inr ⟨hmax.cons hmore, hvalue, by omega⟩
    · rw [if_neg hx]
      rcases ih start least with ⟨hbest, hmost⟩ | ⟨hmax, hvalue, hmore⟩
      · refine Or.inl ⟨hbest, ?_⟩
        rw [List.forall_mem_cons]
        exact ⟨by omega, hmost⟩
      · exact Or.inr ⟨hmax.cons (by omega), hvalue, hmore⟩

end FirstMax

section Patterns

variable {scores : Pattern → Nat} {p q : Pattern} {lower : List Char}

/-- The earliest style of those with the highest score, which is not zero. -/
structure IsBest (scores : Pattern → Nat) (p : Pattern) : Prop where
  positive : 0 < scores p
  highest : ∀ q, scores q ≤ scores p
  earliest : ∀ q, q.ctorIdx < p.ctorIdx → scores q < scores p

theorem IsBest.unique (hp : IsBest scores p) (hq : IsBest scores q) : p = q := by
  rcases Nat.lt_trichotomy p.ctorIdx q.ctorIdx with hlt | heq | hlt
  · have hless := hq.earliest p hlt
    have hmost := hp.highest q
    omega
  · rw [← Pattern.ofNat_ctorIdx p, heq, Pattern.ofNat_ctorIdx]
  · have hless := hp.earliest q hlt
    have hmost := hq.highest p
    omega

theorem mem_scoredPatterns (h : p ≠ .general) : p ∈ scoredPatterns :=
  List.mem_filter.mpr ⟨Pattern.mem_all p, by simpa using h⟩

theorem sorted_scoredPatterns : scoredPatterns.Pairwise fun p q => p.ctorIdx < q.ctorIdx := by
  decide

theorem IsBest.of_firstMax (hgeneral : scores .general = 0) (hpos : 0 < scores p)
    (h : IsFirstMax scores scoredPatterns p) : IsBest scores p := by
  obtain ⟨before, after, hsplit, hbefore, hafter⟩ := h
  have hsorted := sorted_scoredPatterns
  rw [hsplit, List.pairwise_append, List.pairwise_cons] at hsorted
  have hplaces (q : Pattern) (hq : q ≠ .general) : q ∈ before ∨ q = p ∨ q ∈ after := by
    have hm := mem_scoredPatterns hq
    simpa [hsplit] using hm
  refine ⟨hpos, fun q => ?_, fun q hlt => ?_⟩
  · by_cases hq : q = .general
    · rw [hq, hgeneral]
      exact Nat.zero_le _
    · rcases hplaces q hq with hm | rfl | hm
      · exact (hbefore q hm).le
      · exact Nat.le_refl _
      · exact hafter q hm
  · by_cases hq : q = .general
    · rwa [hq, hgeneral]
    · rcases hplaces q hq with hm | rfl | hm
      · exact hbefore q hm
      · exact absurd hlt (Nat.lt_irrefl _)
      · exact absurd (hsorted.2.1.1 q hm) (Nat.not_lt_of_lt hlt)

theorem scoreLower_general (lower : List Char) : scoreLower .general lower = 0 := rfl

theorem bestPattern_cases (lower : List Char) :
    (bestPattern lower = (.general, 0) ∧ ∀ q, scoreLower q lower = 0) ∨
      (IsBest (scoreLower · lower) (bestPattern lower).1 ∧
        (bestPattern lower).2 = scoreLower (bestPattern lower).1 lower) := by
  rcases foldl_firstMax (scoreLower · lower) scoredPatterns .general 0 with
    ⟨hbest, hmost⟩ | ⟨hmax, hscore, hpos⟩
  · refine Or.inl ⟨hbest, fun q => ?_⟩
    by_cases hq : q = .general
    · rw [hq, scoreLower_general]
    · exact Nat.le_zero.mp (hmost q (mem_scoredPatterns hq))
  · refine Or.inr ⟨IsBest.of_firstMax (scoreLower_general lower) ?_ hmax, hscore⟩
    rwa [hscore] at hpos

theorem bestPattern_iff : (bestPattern lower).1 = p ↔
    IsBest (scoreLower · lower) p ∨ p = .general ∧ ∀ q, scoreLower q lower = 0 := by
  constructor
  · rintro rfl
    rcases bestPattern_cases lower with ⟨hbest, hzero⟩ | ⟨hbest, -⟩
    · exact Or.inr ⟨by rw [hbest], hzero⟩
    · exact Or.inl hbest
  · rintro (hp | ⟨rfl, hnone⟩)
    · rcases bestPattern_cases lower with ⟨-, hzero⟩ | ⟨hbest, -⟩
      · exact absurd (hzero p) hp.positive.ne'
      · exact hbest.unique hp
    · rcases bestPattern_cases lower with ⟨hbest, -⟩ | ⟨hbest, -⟩
      · rw [hbest]
      · exact absurd (hnone _) hbest.positive.ne'

-- The layered style has the same score and comes later.
example : bestPattern "client layer".toList = (.clientServer, 2) := by decide +kernel

theorem bestPattern_score (lower : List Char) :
    (bestPattern lower).2 = scoreLower (bestPattern lower).1 lower := by
  rcases bestPattern_cases lower with ⟨hbest, -⟩ | ⟨-, hscore⟩
  · rw [hbest, scoreLower_general]
  · exact hscore

theorem bestPattern_general_iff : (bestPattern lower).2 = 0 ↔ (bestPattern lower).1 = .general := by
  rw [bestPattern_score]
  constructor
  · intro h
    rcases bestPattern_cases lower with ⟨hbest, -⟩ | ⟨hbest, -⟩
    · rw [hbest]
    · exact absurd h hbest.positive.ne'
  · intro h
    rw [h, scoreLower_general]

end Patterns

section Confidence

/-- Confidence lies between zero and one, and only the score zero gives none. -/
def IsGraded (α : Type) [Scalar α] : Prop :=
  ∀ n : Nat, (0.0 : α) ≤ confidence n ∧ confidence n ≤ (1.0 : α) ∧
  (confidence n = (0.0 : α) ↔ n = 0)

theorem isGraded_float : IsGraded Float := by
  intro n
  by_cases hn : n = 0
  · rw [hn]
    exact ⟨by decide +kernel, by decide +kernel, by decide +kernel⟩
  · have hsizable : Decimal.Sizable (-57) (Float.ofNat n / 10.0).toModel.unpack :=
      Decimal.sizable_div_ten (Decimal.sizable_ofNat (Nat.pos_of_ne_zero hn))
    have hone : (0.0 : Float) ≤ 1.0 ∧ (1.0 : Float) ≤ 1.0 ∧ (1.0 : Float) ≠ 0.0 := by decide +kernel
    change (0.0 : Float) ≤ Scalar.clampUnit (Float.ofNat n / 10.0) ∧
      Scalar.clampUnit (Float.ofNat n / 10.0) ≤ (1.0 : Float) ∧
        (Scalar.clampUnit (Float.ofNat n / 10.0) = (0.0 : Float) ↔ n = 0)
    rw [Scalar.clampUnit, if_neg hsizable.not_neg]
    split_ifs with hmore
    · exact ⟨hone.1, hone.2.1, iff_of_false hone.2.2 hn⟩
    · exact ⟨hsizable.nonneg, hsizable.le_one hmore, iff_of_false hsizable.ne_zero hn⟩

theorem isGraded_real : IsGraded ℝ := by
  intro n
  have hn : (0 : ℝ) ≤ n := Nat.cast_nonneg n
  change (0.0 : ℝ) ≤ Scalar.clampUnit ((n : ℝ) / 10.0) ∧
    Scalar.clampUnit ((n : ℝ) / 10.0) ≤ (1.0 : ℝ) ∧
    (Scalar.clampUnit ((n : ℝ) / 10.0) = (0.0 : ℝ) ↔ n = 0)
  have hnonneg : (0.0 : ℝ) ≤ (n : ℝ) / 10.0 := by
    norm_num
    positivity
  rw [Scalar.clampUnit, if_neg (not_lt.mpr hnonneg)]
  split_ifs with hmore
  · have hsome : n ≠ 0 := by
      rintro rfl
      norm_num at hmore
    exact ⟨by norm_num, le_rfl, iff_of_false (by norm_num) hsome⟩
  · refine ⟨hnonneg, not_lt.mp hmore, ?_⟩
    norm_num

end Confidence

variable {α : Type} [Scalar α]

/-- What a description is classified as, by the scores that the styles have for it. -/
structure Analysis.Classified (scores : Pattern → Nat) (a : Analysis α) : Prop where
  pattern : ∀ p, a.pattern = p ↔ IsBest scores p ∨ p = .general ∧ ∀ q, scores q = 0
  confidence : a.confidence = Scalar.clampUnit ((scores a.pattern : α) / 10.0)
  least : 0.0 ≤ a.confidence
  most : a.confidence ≤ 1.0
  none : a.confidence = 0.0 ↔ a.pattern = .general

theorem pattern_analyze (text : String) :
    (analyze text : Analysis α).pattern = (bestPattern (Text.lowerCase text.toList)).1 := by
  rw [analyze]

theorem confidence_analyze (text : String) :
    (analyze text : Analysis α).confidence = confidence
      (bestPattern (Text.lowerCase text.toList)).2 := by rw [analyze]

theorem classified_of_isGraded (h : IsGraded α) (text : String) :
    (analyze text : Analysis α).Classified (score · text.toList) := by
  obtain ⟨hleast, hmost, hnone⟩ := h (bestPattern (Text.lowerCase text.toList)).2
  rw [← confidence_analyze] at hleast hmost hnone
  rw [bestPattern_general_iff, ← pattern_analyze (α := α)] at hnone
  refine ⟨fun p => ?_, ?_, hleast, hmost, hnone⟩
  · rw [pattern_analyze]
    exact bestPattern_iff
  · rw [confidence_analyze, pattern_analyze, bestPattern_score]
    rfl

/-- A description is read as the earliest of the best styles, in floating point numbers and in exact
ones. -/
theorem analyze_classified (text : String) :
    (analyze text : Analysis Float).Classified (score · text.toList) ∧
      (analyze text : Analysis ℝ).Classified (score · text.toList) :=
  ⟨classified_of_isGraded isGraded_float text, classified_of_isGraded isGraded_real text⟩

end ArchDiagram.Prompt
