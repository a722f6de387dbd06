import Mathlib.Logic.Function.Basic
import Mathlib.Tactic.SplitIfs
import ArchDiagram.Decimal.Basic

namespace ArchDiagram.Decimal

theorem ofDigits_digitsOf (n : Nat) : ofDigits (digitsOf n) = n := by
  have hstep : (fun n (c : Char) => n * 10 + (c.toNat - 0x30)) =
      fun n (c : Char) => 10 * n + (c.toNat - '0'.toNat) := by
    funext n c
    rw [Nat.mul_comm]
    rfl
  rw [ofDigits, hstep]
  exact Nat.ofDigitChars_ten_toDigits

theorem digitsOf_injective : Function.Injective digitsOf :=
  Function.LeftInverse.injective ofDigits_digitsOf

theorem isDigit_of_mem_digitsOf {n : Nat} {c : Char} (h : c ∈ digitsOf n) : c.isDigit = true :=
  Nat.isDigit_of_mem_toDigits (by decide) (by decide) h

theorem digitsOf_ne_nil (n : Nat) : digitsOf n ≠ [] := Nat.toDigits_ne_nil

/-- Only the number zero begins with a zero. -/
theorem head?_digitsOf {n : Nat} (h : (digitsOf n).head? = some '0') : n = 0 := by
  induction n using Nat.strongRecOn with
  | ind n ih =>
    rw [digitsOf, Nat.toDigits_eq_if (by decide)] at h
    split_ifs at h with hn
    · have hall : ∀ m < 10, m.digitChar = '0' → m = 0 := by decide
      exact hall n hn (by simpa using h)
    · rw [List.head?_append] at h
      cases hd : (Nat.toDigits 10 (n / 10)).head? with
      | none => simp at hd
      | some c =>
        rw [hd, Option.some_or] at h
        have hz := ih (n / 10) (by omega) (hd.trans h)
        omega

end ArchDiagram.Decimal
