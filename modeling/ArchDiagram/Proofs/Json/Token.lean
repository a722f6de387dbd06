import Mathlib
import ArchDiagram.Json.Printer
import ArchDiagram.Json.Token
import ArchDiagram.Proofs.Decimal.Digits

namespace ArchDiagram.Json

open Decimal

variable {s rest after : List Char}

section Quoted

theorem hexDigit?_hexDigit : ∀ n < 16, hexDigit? (hexDigit n) = some n := by decide

theorem escaped?_letter : ∀ entry ∈ letterEscapes, escaped? entry.2 = some entry.1 := by decide

theorem readText_plain {c : Char} (hquote : c.toNat ≠ 0x22) (hcontrol : 0x20 ≤ c.toNat)
    (hslash : c.toNat ≠ 0x5C) :
    readText (c :: rest) = (readText rest).map fun r => (c.toNat :: r.1, r.2) := by
  rw [readText.eq_def]
  simp only [hquote, if_false, Nat.not_lt.mpr hcontrol, hslash, ne_eq, not_false_eq_true, if_true]

theorem readText_letter {e : Char} {n : Nat} (h : escaped? e = some n) :
    readText (Char.ofNat 0x5C :: e :: rest) = (readText rest).map fun r => (n :: r.1, r.2) := by
  have hu : e ≠ 'u' := by
    rintro rfl
    have hnone : escaped? 'u' = none := by decide
    rw [hnone] at h
    cases h
  rw [readText.eq_def]
  simp [h, hu]

theorem readText_hex {n : Nat} (h : n < 0x20) :
    readText ([Char.ofNat 0x5C, 'u', '0', '0', hexDigit (n / 16), hexDigit (n % 16)] ++ rest) =
      (readText rest).map fun r => (n :: r.1, r.2) := by
  have hhigh := hexDigit?_hexDigit (n / 16) (by omega)
  have hlow := hexDigit?_hexDigit (n % 16) (by omega)
  have hzero : hexDigit? '0' = some 0 := by decide
  rw [readText.eq_def]
  simp [hhigh, hlow, hzero, Nat.div_add_mod']

theorem readText_escape (c : Char) (rest : List Char) :
    readText (escape c ++ rest) = (readText rest).map fun r => (c.toNat :: r.1, r.2) := by
  rw [escape]
  split
  · next letter hletter =>
    obtain ⟨before, after, hsplit, -⟩ := List.lookup_eq_some_iff.mp hletter
    have hm : (c.toNat, letter) ∈ letterEscapes := by simp [hsplit]
    exact readText_letter (escaped?_letter _ hm)
  · next hnone =>
    split
    · next hcontrol => exact readText_hex hcontrol
    · next hcontrol =>
      -- Quote and backslash have letters of their own.
      have hquote : c.toNat ≠ 0x22 := by
        intro he
        rw [he] at hnone
        cases hnone
      have hslash : c.toNat ≠ 0x5C := by
        intro he
        rw [he] at hnone
        cases hnone
      exact readText_plain hquote (Nat.not_lt.mp hcontrol) hslash

theorem readText_escaped (s rest : List Char) :
    readText (s.flatMap escape ++ Char.ofNat 0x22 :: rest) = some (s.map Char.toNat, rest) := by
  induction s with
  | nil =>
    rw [List.flatMap_nil, List.nil_append, readText.eq_def]
    rfl
  | cons c s ih =>
    rw [List.flatMap_cons, List.append_assoc, readText_escape, ih]
    rfl

/-- No character is half of a surrogate pair. -/
theorem joinSurrogates_toNat (s : List Char) : joinSurrogates (s.map Char.toNat) = some s := by
  induction s with
  | nil => rfl
  | cons c s ih =>
    have hvalid : (c.toNat < 0xD800 || 0xDFFF < c.toNat) = true := by
      have hc : c.toNat < 0xD800 ∨ 0xDFFF < c.toNat ∧ c.toNat < 0x110000 := c.valid
      simp only [Bool.or_eq_true, decide_eq_true_eq]
      omega
    rw [List.map_cons, joinSurrogates.eq_def]
    simp only [hvalid, if_true, ih, Option.map_some, Char.ofNat_toNat]

theorem readToken_quote (rest : List Char) : readToken (Char.ofNat 0x22 :: rest) =
    (readText rest).map fun r => (.text ((joinSurrogates r.1).map String.ofList), r.2) := by
  rw [readToken] <;> first | rfl | (intros; contradiction)

theorem readToken_quoted (s : String) (rest : List Char) :
    readToken (quoted s ++ rest) = some (.text (some s), rest) := by
  have hstart : quoted s ++ rest = Char.ofNat 0x22 ::
      (s.toList.flatMap escape ++ Char.ofNat 0x22 :: rest) := by
    simp [quoted]
  rw [hstart, readToken_quote, readText_escaped, Option.map_some, joinSurrogates_toNat,
    Option.map_some, String.ofList_toList]

end Quoted

section Numerals

/-- Text that does not carry on a numeral before it. -/
def EndsNumeral (s : List Char) : Prop :=
  ∀ c ∈ s.head?, c.isDigit = false ∧ c ≠ '.' ∧ c ≠ 'e' ∧ c ≠ 'E'

theorem endsNumeral_nil : EndsNumeral [] := by
  intro c hc
  cases hc

theorem EndsNumeral.head?_isDigit (h : EndsNumeral rest) : rest.head?.any Char.isDigit = false := by
  cases rest with
  | nil => rfl
  | cons c rest => exact (h c rfl).1

theorem readDigits_append (h : EndsNumeral rest) (s : List Char) :
    readDigits (s ++ rest) = ((readDigits s).1, (readDigits s).2 ++ rest) := by
  induction s with
  | nil =>
    cases rest with
    | nil => rfl
    | cons c rest => simp [readDigits, (h c rfl).1]
  | cons c s ih =>
    simp only [readDigits, Prod.mk.injEq] at ih
    by_cases hc : c.isDigit = true <;> simp [readDigits, hc, List.filterMap_cons, ih]

theorem readMinus_append (hs : s ≠ []) (rest : List Char) :
    readMinus (s ++ rest) = ((readMinus s).1, (readMinus s).2 ++ rest) := by
  obtain ⟨c, s, rfl⟩ := List.exists_cons_of_ne_nil hs
  by_cases hc : c = '-'
  · subst hc
    rfl
  · simp [readMinus, hc]

theorem readSign_append (hs : s ≠ []) (rest : List Char) :
    readSign (s ++ rest) = ((readSign s).1, (readSign s).2 ++ rest) := by
  have hminus := readMinus_append hs rest
  obtain ⟨c, s, rfl⟩ := List.exists_cons_of_ne_nil hs
  by_cases hc : c = '+'
  · subst hc
    rfl
  · simpa [readSign, hc] using hminus

theorem readWhole_append (h : EndsNumeral rest) {digits : List Nat}
    (hs : readWhole s = some (digits, after)) :
    readWhole (s ++ rest) = some (digits, after ++ rest) := by
  cases s with
  | nil => cases hs
  | cons c s =>
    have hhead : (s ++ rest).head?.any Char.isDigit = s.head?.any Char.isDigit := by
      cases s with
      | nil => exact h.head?_isDigit
      | cons d s => rfl
    rw [readWhole] at hs
    rw [List.cons_append, readWhole, hhead, readDigits_append h]
    split_ifs at hs ⊢ <;> simp_all

theorem readFraction_of_ne {c : Char} (h : c ≠ '.') (s : List Char) :
    readFraction (c :: s) = some ([], c :: s) := by
  rw [readFraction.eq_def]
  split
  · next heq => exact absurd (List.cons.inj heq).1 h
  · rfl

theorem readFraction_append (h : EndsNumeral rest) {digits : List Nat}
    (hs : readFraction s = some (digits, after)) :
    readFraction (s ++ rest) = some (digits, after ++ rest) := by
  cases s with
  | nil =>
    cases hs
    cases rest with
    | nil => rfl
    | cons c rest => exact readFraction_of_ne (h c rfl).2.1 rest
  | cons c s =>
    by_cases hc : c = '.'
    · subst hc
      simp only [readFraction, List.cons_append, readDigits_append h, Option.ite_none_left_eq_some,
        Option.some.injEq] at hs ⊢
      exact ⟨hs.1, by rw [hs.2]⟩
    · rw [readFraction_of_ne hc] at hs
      cases hs
      exact readFraction_of_ne hc (s ++ rest)

theorem readExponent_append (h : EndsNumeral rest) {exponent : Option Int}
    (hs : readExponent s = some (exponent, after)) :
    readExponent (s ++ rest) = some (exponent, after ++ rest) := by
  cases s with
  | nil =>
    cases hs
    cases rest with
    | nil => rfl
    | cons c rest => simp [readExponent, (h c rfl).2.2]
  | cons c s =>
    rw [readExponent] at hs
    rw [List.cons_append, readExponent]
    by_cases hc : (c = 'e' || c = 'E') = true
    · rw [if_pos hc] at hs ⊢
      have hne : s ≠ [] := by
        rintro rfl
        cases hs
      simp only [readSign_append hne, readDigits_append h, Option.ite_none_left_eq_some,
        Option.some.injEq, Prod.mk.injEq] at hs ⊢
      exact ⟨hs.1, hs.2.1, by rw [hs.2.2]⟩
    · rw [if_neg hc] at hs ⊢
      cases hs
      rfl

variable {n : Numeral}

theorem readNumeral_append (h : EndsNumeral rest) (hs : readNumeral s = some (n, after)) :
    readNumeral (s ++ rest) = some (n, after ++ rest) := by
  have hne : s ≠ [] := by
    rintro rfl
    cases hs
  simp only [readNumeral, Option.bind_eq_some_iff, Option.map_eq_some_iff] at hs ⊢
  obtain ⟨whole, hwhole, fraction, hfraction, exponent, hexponent, heq⟩ := hs
  obtain ⟨rfl, rfl⟩ := Prod.mk.inj heq
  rw [readMinus_append hne]
  exact ⟨_, readWhole_append h hwhole, _, readFraction_append h hfraction, _,
    readExponent_append h hexponent, rfl⟩

/-- A numeral begins with its sign or a digit. -/
theorem head?_of_readNumeral (hs : readNumeral s = some (n, after)) :
    ∃ c more, s = c :: more ∧ (c = '-' ∨ c.isDigit = true) := by
  simp only [readNumeral, Option.bind_eq_some_iff] at hs
  obtain ⟨whole, hwhole, -⟩ := hs
  cases s with
  | nil => cases hwhole
  | cons c more =>
    refine ⟨c, more, rfl, ?_⟩
    by_cases hc : c = '-'
    · exact .inl hc
    · have hminus : readMinus (c :: more) = (false, c :: more) := by simp [readMinus, hc]
      rw [hminus, readWhole] at hwhole
      split_ifs at hwhole with hzero hmore hdigit
      · rw [hzero]
        decide
      · exact .inr hdigit

theorem readToken_digit {c : Char} (hc : c = '-' ∨ c.isDigit = true) (rest : List Char) :
    readToken (c :: rest) = (readNumeral (c :: rest)).map fun r => (.value r.1.value, r.2) := by
  have hmark {m : Char} (hm : ¬(m = '-' ∨ m.isDigit = true)) : c ≠ m := fun he => hm (he ▸ hc)
  have hpoint {k : Nat} (hk : ¬(Char.ofNat k = '-' ∨ (Char.ofNat k).isDigit = true)) :
      c.toNat ≠ k := by
    rintro rfl
    exact hk (by rwa [Char.ofNat_toNat])
  have hbrace : c.toNat ≠ 0x7B := hpoint (by decide)
  have hclose : c.toNat ≠ 0x7D := hpoint (by decide)
  have hquote : c.toNat ≠ 0x22 := hpoint (by decide)
  rw [readToken, if_neg hbrace, if_neg hclose, if_neg hquote]
  case x | x_1 | x_2 | x_3 => exact hmark (by decide)
  case x_4 | x_5 | x_6 => exact fun _ he => absurd he (hmark (by decide))

theorem readToken_numeral (h : EndsNumeral rest) (hs : readNumeral s = some (n, [])) :
    readToken (s ++ rest) = some (.value n.value, rest) := by
  obtain ⟨c, more, rfl, hc⟩ := head?_of_readNumeral hs
  rw [List.cons_append, readToken_digit hc, ← List.cons_append, readNumeral_append h hs]
  rfl

end Numerals

section Integers

variable {digits : List Char}

theorem readDigits_of_all (h : ∀ c ∈ digits, c.isDigit = true) :
    readDigits digits = (digits.filterMap digit?, []) := by
  have htake : digits.takeWhile Char.isDigit = digits := List.takeWhile_eq_self_iff.mpr h
  have hdrop : digits.dropWhile Char.isDigit = [] := List.dropWhile_eq_nil_iff.mpr h
  rw [readDigits, htake, hdrop]

theorem readWhole_digitsOf (m : Nat) :
    readWhole (digitsOf m) = some ((digitsOf m).filterMap digit?, []) := by
  by_cases hm : m = 0
  · subst hm
    decide
  · have hdigits : ∀ c ∈ digitsOf m, c.isDigit = true := fun c => isDigit_of_mem_digitsOf
    have hhead : (digitsOf m).head? ≠ some '0' := fun he => hm (head?_digitsOf he)
    obtain ⟨c, ds, hds⟩ := List.exists_cons_of_ne_nil (digitsOf_ne_nil m)
    rw [hds] at hdigits hhead ⊢
    have hc : c ≠ '0' := fun he => hhead (congrArg some he)
    have hfirst : c.isDigit = true := hdigits c List.mem_cons_self
    rw [readWhole, if_neg hc, if_pos hfirst,
      readDigits_of_all fun d hd => hdigits d (List.mem_cons_of_mem c hd)]
    simp only [digit?, hfirst, if_true, List.filterMap_cons, Option.toList_some,
      List.singleton_append]

/-- A number with one more digit after it. -/
def gather (n : Nat) (c : Char) : Nat := n * 10 + (c.toNat - 0x30)

theorem le_foldl_gather (n : Nat) (digits : List Char) : n ≤ digits.foldl gather n := by
  induction digits generalizing n with
  | nil => exact le_rfl
  | cons c rest ih =>
    have hfirst : n ≤ gather n c := by
      rw [gather]
      omega
    exact hfirst.trans (ih _)

theorem wholePart_digits {n : Nat} (h : ∀ c ∈ digits, c.isDigit = true)
    (hfits : digits.foldl gather n < 18446744073709551616) :
    wholePart n (digits.filterMap digit?) = ⟨digits.foldl gather n, 0⟩ := by
  induction digits generalizing n with
  | nil => rfl
  | cons c rest ih =>
    have hc : digit? c = some (c.toNat - 0x30) := if_pos (h c List.mem_cons_self)
    have hnext : fits n (c.toNat - 0x30) = true := by
      have hle := (le_foldl_gather (gather n c) rest).trans_lt hfits
      simpa [fits, gather] using hle
    rw [List.filterMap_cons_some hc, wholePart, if_pos hnext]
    exact ih (fun d hd => h d (List.mem_cons_of_mem c hd)) hfits

theorem wholePart_digitsOf {m : Nat} (h : m < 18446744073709551616) :
    wholePart 0 ((digitsOf m).filterMap digit?) = ⟨m, 0⟩ := by
  have hvalue : (digitsOf m).foldl gather 0 = m := ofDigits_digitsOf m
  rw [wholePart_digits (fun _ => isDigit_of_mem_digitsOf) (hvalue.symm ▸ h), hvalue]

/-- The numeral that an integer is printed as. -/
def intNumeral (n : Int) : Numeral := ⟨n < 0, (digitsOf n.natAbs).filterMap digit?, [], none⟩

theorem readNumeral_intText (n : Int) : readNumeral (intText n) = some (intNumeral n, []) := by
  have hminus : readMinus (intText n) = (decide (n < 0), digitsOf n.natAbs) := by
    rw [intText]
    by_cases hn : n < 0
    · simp [hn, readMinus]
    · obtain ⟨c, ds, hds⟩ := List.exists_cons_of_ne_nil (digitsOf_ne_nil n.natAbs)
      have hc : c.isDigit = true :=
        isDigit_of_mem_digitsOf (n := n.natAbs) (hds ▸ List.mem_cons_self)
      have hne : c ≠ '-' := by
        rintro rfl
        exact absurd hc (by decide)
      simp [hn, hds, readMinus, hne]
  simp only [readNumeral, hminus, readWhole_digitsOf, Option.bind_some, readFraction, readExponent,
    Option.map_some, intNumeral]

theorem value_intNumeral {n : Int} (hlow : -9223372036854775808 ≤ n)
    (hhigh : n < 18446744073709551616) :
    (intNumeral n).value = .int n := by
  have hwhole : wholePart 0 ((digitsOf n.natAbs).filterMap digit?) = ⟨n.natAbs, 0⟩ :=
    wholePart_digitsOf (by omega)
  by_cases hn : n < 0
  · have hsize : 0 < n.natAbs ∧ n.natAbs ≤ 9223372036854775808 := by omega
    simp [Numeral.value, intNumeral, hwhole, hn, hsize, abs_of_neg hn]
  · have habs : (n.natAbs : Int) = n := by omega
    simp [Numeral.value, intNumeral, hwhole, hn, habs]

end Integers

end ArchDiagram.Json
