import ArchDiagram.Proofs.Text.Runs

namespace ArchDiagram.Text

/-- A place between two characters of the text, or at one of its ends. -/
def IsPlace (s : List Char) (n : Nat) : Prop :=
  ∃ front back, s = front ++ back ∧ byteLength front = n

/-- A stretch of the text that can be cut out: it goes from one place to another that is not before
it. -/
structure IsStretch (s : List Char) (start stop : Nat) : Prop where
  start_le_stop : start ≤ stop
  start : IsPlace s start
  stop : IsPlace s stop

/-- The text falls into three parts, of which the middle one goes from `start` to `stop`. -/
structure Cut (s : List Char) (start stop : Nat) (before inside after : List Char) : Prop where
  text : s = before ++ inside ++ after
  start : byteLength before = start
  stop : byteLength (before ++ inside) = stop

section Lengths

theorem byteLength_pos {s : List Char} (h : s ≠ []) : 0 < byteLength s := by
  cases s with
  | nil => contradiction
  | cons c rest => exact Nat.add_pos_left c.utf8Size_pos _

theorem eq_nil_of_byteLength {s : List Char} (h : byteLength s = 0) : s = [] := by
  by_contra hne
  exact absurd h (Nat.ne_of_gt (byteLength_pos hne))

/-- Of two fronts of a text the one with fewer bytes is a front of the other. -/
theorem exists_between {front back front' back' : List Char} (h : front ++ back = front' ++ back')
    (hle : byteLength front ≤ byteLength front') :
    ∃ between, front' = front ++ between ∧ back = between ++ back' := by
  rcases List.append_eq_append_iff.mp h with ⟨between, hfront, hback⟩ | ⟨between, hfront, hback⟩
  · exact ⟨between, hfront, hback⟩
  · rw [hfront, byteLength_append] at hle
    obtain rfl : between = [] := eq_nil_of_byteLength (by omega)
    exact ⟨[], by simpa using hfront.symm, by simpa using hback.symm⟩

end Lengths

section Cuts

variable {s before inside after : List Char} {start stop : Nat}

theorem takeBytes_append (s t : List Char) : takeBytes (byteLength s) (s ++ t) = s := by
  induction s with
  | nil => exact takeBytes_zero t
  | cons c s ih =>
    have hsize := c.utf8Size_pos
    rw [List.cons_append, byteLength, takeBytes_cons (by omega), Nat.add_sub_cancel_left, ih]

namespace Cut

theorem stop_eq (h : Cut s start stop before inside after) : stop = start + byteLength inside := by
  rw [← h.start, ← h.stop, byteLength_append]

theorem slice_eq (h : Cut s start stop before inside after) : slice s start stop = inside := by
  rw [h.text, ← h.start, List.append_assoc, slice_append, h.start, h.stop_eq,
    Nat.add_sub_cancel_left, takeBytes_append]

theorem isStretch (h : Cut s start stop before inside after) : IsStretch s start stop := by
  refine ⟨by rw [h.stop_eq]; omega, ⟨before, inside ++ after, ?_, h.start⟩,
    ⟨before ++ inside, after, h.text, h.stop⟩⟩
  rw [h.text, List.append_assoc]

end Cut

theorem IsStretch.exists_cut (h : IsStretch s start stop) :
    ∃ before inside after, Cut s start stop before inside after := by
  obtain ⟨before, rest, htext, hstart⟩ := h.start
  obtain ⟨front, after, htext', hstop⟩ := h.stop
  obtain ⟨inside, rfl, -⟩ :=
    exists_between (htext.symm.trans htext') (by rw [hstart, hstop]; exact h.start_le_stop)
  exact ⟨before, inside, after, htext', hstart, hstop⟩

end Cuts

end ArchDiagram.Text
