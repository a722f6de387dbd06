import Mathlib.Data.List.Induction

namespace ArchDiagram.Prompt

variable {β γ : Type} (clash : β → β → Bool)

/-- Takes an element unless it clashes with one that is taken already. -/
def settleApart (taken : List β) (x : β) : List β :=
  if taken.any (clash x) then taken else taken ++ [x]

def settled (xs : List β) : List β := xs.foldl (settleApart clash) []

theorem settled_concat (xs : List β) (x : β) :
    settled clash (xs ++ [x]) = settleApart clash (settled clash xs) x := by
  rw [settled, List.foldl_append]
  rfl

theorem settleApart_grows (taken : List β) (x : β) : taken <+: settleApart clash taken x := by
  rw [settleApart]
  split_ifs
  · exact List.prefix_rfl
  · exact List.prefix_append _ _

/-- What is taken stays taken. -/
theorem settled_grows (xs ys : List β) : settled clash xs <+: settled clash (xs ++ ys) := by
  induction ys using List.reverseRecOn with
  | nil => simp
  | append_singleton ys y ih =>
    rw [← List.append_assoc, settled_concat]
    exact ih.trans (settleApart_grows clash _ y)

theorem settled_sublist (xs : List β) : (settled clash xs).Sublist xs := by
  induction xs using List.reverseRecOn with
  | nil => exact List.Sublist.refl []
  | append_singleton xs x ih =>
    rw [settled_concat, settleApart]
    split_ifs
    · exact ih.trans (List.sublist_append_left xs [x])
    · exact ih.append (List.Sublist.refl [x])

/-- No two elements that are taken clash. -/
theorem settled_apart (xs : List β) : (settled clash xs).Pairwise fun a b => clash b a = false := by
  induction xs using List.reverseRecOn with
  | nil => exact List.Pairwise.nil
  | append_singleton xs x ih =>
    rw [settled_concat, settleApart]
    split_ifs with hany
    · exact ih
    · rw [Bool.not_eq_true, List.any_eq_false] at hany
      refine List.pairwise_append.mpr ⟨ih, List.pairwise_singleton _ _, fun a ha b hb => ?_⟩
      rw [List.mem_singleton.mp hb]
      exact Bool.not_eq_true _ ▸ hany a ha

/-- An element that is left out clashes with one that was taken before its turn. -/
theorem mem_settled_or_clash (xs ys : List β) (x : β) :
    x ∈ settled clash (xs ++ x :: ys) ∨ ∃ y ∈ settled clash xs, clash x y = true := by
  by_cases h : (settled clash xs).any (clash x) = true
  · exact Or.inr (List.any_eq_true.mp h)
  · have hx : x ∈ settled clash (xs ++ [x]) := by simp [settled_concat, settleApart, h]
    have hmore := settled_grows clash (xs ++ [x]) ys
    rw [List.append_assoc, List.singleton_append] at hmore
    exact Or.inl (hmore.subset hx)

/-- Whether elements clash may be seen on a part of them. -/
theorem map_settled (f : γ → β) (xs : List γ) :
    (settled (fun a b => clash (f a) (f b)) xs).map f = settled clash (xs.map f) := by
  induction xs using List.reverseRecOn with
  | nil => rfl
  | append_singleton xs x ih =>
    rw [List.map_append, List.map_singleton, settled_concat, settled_concat, ← ih, settleApart,
      settleApart, List.any_map]
    change _ = if (settled (fun a b => clash (f a) (f b)) xs).any (fun y => clash (f x) (f y)) =
      true then _ else _
    split_ifs
    · rfl
    · rw [List.map_append, List.map_singleton]

end ArchDiagram.Prompt
