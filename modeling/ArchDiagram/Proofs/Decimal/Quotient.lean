import Mathlib
import ArchDiagram.Proofs.Decimal.Integers

namespace ArchDiagram.Decimal

open Float.Model Float.Model.UnpackedFloat

/-- A positive number with a mantissa of 53 bits and an exponent that is not below a limit, or
infinity. -/
inductive Sizable (low : Int) : UnpackedFloat → Prop
  | infinity : Sizable low (.infinity .positive)
  | finite {m : Nat} {e : Int} (h : 0 < m) (least : 2 ^ 52 ≤ m) (most : m < 2 ^ 53)
      (exponent : low ≤ e) :
      Sizable low (.finite .positive m e h)

theorem Sizable.mono {low low' : Int} {u : UnpackedFloat} (h : Sizable low u) (hle : low' ≤ low) :
    Sizable low' u := by
  cases h with
  | infinity => exact .infinity
  | finite hpos hleast hmost hexponent => exact .finite hpos hleast hmost (hle.trans hexponent)

section Rounding

variable {m : Nat} {e low : Int}

/-- The first 53 bits of a mantissa. -/
theorem leading_bounds (h : 2 ^ 52 ≤ m) :
    2 ^ 52 ≤ m / 2 ^ (m.log2 - 52) ∧ m / 2 ^ (m.log2 - 52) < 2 ^ 53 := by
  have hpos : m ≠ 0 := by omega
  have hlog : 52 ≤ m.log2 := (Nat.le_log2 hpos).mpr h
  obtain ⟨hlow, hhigh⟩ := (Nat.log2_eq_iff hpos).mp rfl
  constructor
  · rw [Nat.le_div_iff_mul_le (by positivity), ← pow_add]
    have hsum : 52 + (m.log2 - 52) = m.log2 := by omega
    rwa [hsum]
  · rw [Nat.div_lt_iff_lt_mul (by positivity), ← pow_add]
    have hsum : 53 + (m.log2 - 52) = m.log2 + 1 := by omega
    rwa [hsum]

theorem shift_leading (hm : 2 ^ 52 ≤ m) (he : -1074 ≤ e) (accuracy : Accuracy) :
    (shiftToTargetExponent Format.binary64 m e accuracy).1.mantissa = m / 2 ^ (m.log2 - 52) ∧
      e ≤ (shiftToTargetExponent Format.binary64 m e accuracy).2 := by
  have hlog : 52 ≤ m.log2 := (Nat.le_log2 (by omega)).mpr hm
  have hamount : (Format.binary64.targetExponent (totalExponent m e) - e).toNat = m.log2 - 52 := by
    rw [targetExponent_eq]
    omega
  have hmantissa : (ExtendedMantissa.ofMantissaAndAccuracy m accuracy).mantissa = m := by
    rcases accuracy with _ | ordering
    · rfl
    · cases ordering <;> rfl
  rw [shiftToTargetExponent, shiftToExponent]
  simp only [hamount, mantissa_shift, hmantissa, true_and]
  omega

/-- Rounding keeps 53 bits. When it carries over into one bit more, the second shift takes that bit
off again. -/
theorem roundWithAccuracy_leading (s : Sign) (hm : 2 ^ 52 ≤ m) (he : -1074 ≤ e)
    (accuracy : Accuracy) :
    ∃ (m' : Nat) (e' : Int) (h : 0 < m'), roundWithAccuracy Format.binary64 s m e accuracy =
      .finite s m' e' h ∧
      2 ^ 52 ≤ m' ∧ m' < 2 ^ 53 ∧ e ≤ e' := by
  obtain ⟨hfirst, hle⟩ := shift_leading hm he accuracy
  obtain ⟨hlow, hhigh⟩ := leading_bounds hm
  rw [roundWithAccuracy]
  rcases hs : shiftToTargetExponent Format.binary64 m e accuracy with ⟨em, e₁⟩
  rw [hs] at hfirst hle
  dsimp only at hfirst hle ⊢
  have hrounded : 2 ^ 52 ≤ em.roundedMantissa := by
    rcases roundedMantissa_cases em with h | h <;> omega
  obtain ⟨hsecond, hle'⟩ := shift_leading (e := e₁) hrounded (by omega) .exact
  obtain ⟨hlow', hhigh'⟩ := leading_bounds hrounded
  rw [← hsecond] at hlow' hhigh'
  have hpos :
      (shiftToTargetExponent Format.binary64 em.roundedMantissa e₁ .exact).1.mantissa ≠ 0 := by
    omega
  rw [dif_neg hpos]
  exact ⟨_, _, _, rfl, hlow', hhigh', by omega⟩

theorem sizable_roundWithAccuracy (hm : 2 ^ 52 ≤ m) (he : -1074 ≤ e) (accuracy : Accuracy) :
    Sizable e (roundWithAccuracy Format.binary64 .positive m e accuracy) := by
  obtain ⟨m', e', hpos, hround, hleast, hmost, hle⟩ :=
    roundWithAccuracy_leading .positive hm he accuracy
  rw [hround]
  exact .finite hpos hleast hmost hle

/-- A number whose exponent is too large for the format is stored as infinity. -/
theorem sizable_pack {u : UnpackedFloat} (hlow : -1074 ≤ low) (h : Sizable low u) :
    Sizable low (Float.Model.pack u).unpack := by
  cases h with
  | infinity => exact .infinity
  | @finite m e hpos hleast hmost hexponent =>
    by_cases hfits : e ≤ 971
    · have hnormal : Normal m e := ⟨hleast, hmost, by omega, hfits⟩
      have hunpack : (Float.Model.pack (.finite .positive m e hpos)).unpack =
          .finite .positive m e hpos :=
        unpack_ofParts hnormal .positive
      rw [hunpack]
      exact .finite hpos hleast hmost hexponent
    · have hlarge : 2 ^ Format.binary64.exponentBits ≤ (e + Format.binary64.exponentBias +
          Format.binary64.mantissaBitsWithoutImplicit).toNat + 1 := by
        change 2048 ≤ (e + 1023 + 52).toNat + 1
        omega
      have hpacked : UnpackedFloat.pack Format.binary64 (.finite .positive m e hpos) =
          packedInfinity Format.binary64 .positive := by
        rw [UnpackedFloat.pack]
        exact if_pos hlarge
      change Sizable low
        (UnpackedFloat.unpack Format.binary64 (UnpackedFloat.pack Format.binary64 _))
      rw [hpacked]
      exact .infinity

end Rounding

section Tenths

theorem sizable_ofNat {n : Nat} (hn : 0 < n) : Sizable (-53) (Float.ofNat n).toModel.unpack := by
  by_cases hsmall : n < 2 ^ 53
  · obtain ⟨k, h, hstored⟩ := ofNat_small hn hsmall
    have hk : k < 53 := by
      have hpow : 2 ^ k < 2 ^ 53 := Nat.lt_of_le_of_lt (Nat.le_mul_of_pos_left _ hn) h.high
      exact (Nat.pow_lt_pow_iff_right (by norm_num)).mp hpow
    rw [hstored, unpack_ofParts h]
    exact .finite h.pos h.low h.high (by omega)
  · rw [ofNat_eq_round (by omega)]
    exact sizable_pack (by norm_num) (sizable_roundWithAccuracy (by omega) (by norm_num) .exact)

theorem unpack_ten :
    (10.0 : Float).toModel.unpack = .finite .positive (5 * 2 ^ 50) (-49) (by norm_num) := rfl

/-- A quotient by ten has 53 bits before it is rounded. -/
theorem divCore_ten {m : Nat} {e : Int} (hlow : 2 ^ 52 ≤ m) (hhigh : m < 2 ^ 53) (he : -53 ≤ e) :
    ∃ accuracy, divCore Format.binary64 m e (5 * 2 ^ 50) (-49) =
      (m * 2 ^ 53 / (5 * 2 ^ 50), e - 4, accuracy) := by
  have hlog : m.log2 = 52 := (Nat.log2_eq_iff (by omega)).mpr ⟨hlow, hhigh⟩
  have hten : (5 * 2 ^ 50).log2 = 52 := (Nat.log2_eq_iff (by norm_num)).mpr (by norm_num)
  have htotal : totalExponent m e - totalExponent (5 * 2 ^ 50) (-49) = e + 49 := by
    rw [totalExponent, totalExponent, hlog, hten]
    omega
  have htarget : min (e - -49) (Format.binary64.targetExponent (e + 49)) = e - 4 := by
    have hleast : Format.binary64.targetExponent (e + 49) = max (e + 49 - 53) (-1074) := rfl
    rw [hleast]
    omega
  have hamount : (e - -49 - (e - 4)).toNat = 53 := by omega
  rw [divCore]
  simp only [htotal, htarget, hamount, Nat.shiftLeft_eq]
  exact ⟨_, rfl⟩

theorem sizable_div_ten {x : Float} (h : Sizable (-53) x.toModel.unpack) :
    Sizable (-57) (x / 10.0).toModel.unpack := by
  change Sizable (-57)
    (Float.Model.pack
      (UnpackedFloat.div Format.binary64 x.toModel.unpack (10.0 : Float).toModel.unpack)).unpack
  refine sizable_pack (by norm_num) ?_
  rw [unpack_ten]
  generalize x.toModel.unpack = u at h
  cases h with
  | infinity => exact .infinity
  | @finite m e hpos hlow hhigh he =>
    obtain ⟨accuracy, hcore⟩ := divCore_ten hlow hhigh he
    have hquotient : 2 ^ 52 ≤ m * 2 ^ 53 / (5 * 2 ^ 50) := by omega
    rw [UnpackedFloat.div, hcore]
    exact (sizable_roundWithAccuracy hquotient (by omega) accuracy).mono (by omega)

end Tenths

section Order

variable {low : Int} {x y : Float}

theorem lt_iff : x < y ↔ x.toModel.unpack.lt y.toModel.unpack = true := by
  change x.lt y = true ↔ _
  rw [Float.lt, decide_eq_true_eq]
  rfl

theorem le_iff : x ≤ y ↔ x.toModel.unpack.le y.toModel.unpack = true := by
  change x.le y = true ↔ _
  rw [Float.le, decide_eq_true_eq]
  rfl

theorem unpack_zero : (0.0 : Float).toModel.unpack = .zero .positive := rfl

theorem unpack_one :
    (1.0 : Float).toModel.unpack = .finite .positive (2 ^ 52) (-52) (by norm_num) := rfl

namespace Sizable

variable (h : Sizable low x.toModel.unpack)
include h

theorem nonneg : (0.0 : Float) ≤ x := by
  rw [le_iff, unpack_zero]
  generalize x.toModel.unpack = u at h
  cases h <;> rfl

theorem not_neg : ¬x < 0.0 := by
  rw [lt_iff, unpack_zero]
  generalize x.toModel.unpack = u at h
  cases h <;> exact Bool.false_ne_true

theorem not_le_zero : ¬x ≤ 0.0 := by
  rw [le_iff, unpack_zero]
  generalize x.toModel.unpack = u at h
  cases h <;> exact Bool.false_ne_true

theorem ne_zero : x ≠ 0.0 := by
  rintro rfl
  rw [unpack_zero] at h
  cases h

/-- A positive number is comparable with one. -/
theorem le_one (hle : ¬(1.0 : Float) < x) : x ≤ 1.0 := by
  rw [lt_iff, unpack_one] at hle
  rw [le_iff, unpack_one]
  generalize x.toModel.unpack = u at h hle ⊢
  cases h with
  | infinity => exact absurd rfl hle
  | @finite m e =>
    change ¬(some ((compare (-52) e).then (compare (2 ^ 52) m)) == some .lt) = true at hle
    change ((compare e (-52)).then (compare m (2 ^ 52))).isLE = true
    have hswap : ((compare (-52) e).then (compare (2 ^ 52) m)).swap =
        (compare e (-52)).then (compare m (2 ^ 52)) := by
      rw [Ordering.swap_then, Int.compare_swap, Nat.compare_swap]
    rw [← hswap]
    cases ho : (compare (-52) e).then (compare (2 ^ 52) m) with
    | lt =>
      rw [ho] at hle
      exact absurd rfl hle
    | eq => rfl
    | gt => rfl

end Sizable

end Order

end ArchDiagram.Decimal
