import Mathlib.Tactic.SplitIfs
import ArchDiagram.Text.Width

namespace ArchDiagram.Text

theorem LigatureEnd.extend?_le {c : Char} {part : LigatureEnd} {step : Int × Option LigatureEnd}
    (h : part.extend? c = some step) : step.1 ≤ 1 := by
  cases part <;> simp only [extend?] at h <;> grind

theorem fst_le {β : Type} {n : Int} {x : β} (h : n ≤ 3) : (n, x).1 ≤ 3 := h

theorem loneWidth_le (c : Char) : (loneWidth c).1 ≤ 3 := by
  rw [loneWidth]
  cases LigatureEnd.ofChar? c <;> split_ifs <;> exact fst_le (by decide)

theorem joinedWidth_le (c : Char) (follower : Follower) : (joinedWidth c follower).1 ≤ 3 := by
  have hlone := loneWidth_le c
  cases follower with
  | other | lineFeed | joinedKeycap => exact hlone
  | ligature part =>
    rw [joinedWidth]
    cases he : part.extend? c with
    | none => exact hlone
    | some step =>
      have hstep := LigatureEnd.extend?_le he
      exact Int.le_trans hstep (by decide)
  | _ =>
    simp only [joinedWidth]
    split_ifs <;> first | exact hlone | exact fst_le (by decide)

theorem plainStep_le (c : Char) (context : WidthContext) : (plainStep c context).1 ≤ 3 := by
  have hjoined := joinedWidth_le c context.follower
  rw [plainStep]
  split_ifs <;> first | exact hjoined | exact fst_le (by decide)

theorem columnStep_le (c : Char) (context : WidthContext) : (columnStep c context).1 ≤ 3 := by
  rw [columnStep]
  split_ifs
  · refine fst_le ?_
    split_ifs <;> decide
  · exact plainStep_le c _
  · exact plainStep_le c context

theorem foldr_fst_le {β : Type} {step : Char → β → Int × β} (h : ∀ c b, (step c b).1 ≤ 3)
    (start : β) (s : List Char) :
    (s.foldr (fun c acc => (acc.1 + (step c acc.2).1, (step c acc.2).2)) ((0 : Int), start)).1 ≤
      3 * (s.length : Int) := by
  induction s with
  | nil => simp
  | cons c s ih =>
    have hstep :=
      h c (s.foldr (fun c acc => (acc.1 + (step c acc.2).1, (step c acc.2).2)) ((0 : Int), start)).2
    rw [List.foldr_cons, List.length_cons]
    omega

/-- No character takes more than three columns. -/
theorem width_le (s : List Char) : width s ≤ 3 * s.length := by
  have hsum := foldr_fst_le columnStep_le (.plain .other) s
  simp only [width]
  omega

end ArchDiagram.Text
