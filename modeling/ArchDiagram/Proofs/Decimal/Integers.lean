import Mathlib
import ArchDiagram.Proofs.Decimal.Nearest

namespace ArchDiagram.Decimal

open Float.Model Float.Model.UnpackedFloat

/-- A mantissa of 53 bits and an exponent of the binary format of 64 bits. -/
structure Normal (m : Nat) (e : Int) : Prop where
  low : 2 ^ 52 ≤ m
  high : m < 2 ^ 53
  exponentLow : -1074 ≤ e
  exponentHigh : e ≤ 971

def isMinus : Sign → Bool
  | .negative => true
  | .positive => false

/-- The number with a sign, a mantissa and an exponent. -/
def ofParts (s : Sign) (m : Nat) (e : Int) (h : 0 < m) : Float :=
  ⟨Float.Model.pack (.finite s m e h)⟩

section Packing

variable {m : Nat} {e : Int} (h : Normal m e)
include h

theorem Normal.pos : 0 < m := by
  have hlow := h.low
  omega

theorem Normal.log2 : m.log2 = 52 := (Nat.log2_eq_iff h.pos.ne').mpr ⟨h.low, h.high⟩

/-- The exponent as it is stored. -/
theorem Normal.biased : ∃ b : Nat, (b : Int) = e + 1075 ∧ 0 < b ∧ b < 2047 := by
  have hlow := h.exponentLow
  have hhigh := h.exponentHigh
  exact ⟨(e + 1075).toNat, by omega, by omega, by omega⟩

theorem pack_normal (s : Sign) {b : Nat} (hb : (b : Int) = e + 1075) :
    UnpackedFloat.pack Format.binary64 (.finite s m e h.pos) =
      packComponents Format.binary64 s (BitVec.ofNat 11 b) (BitVec.ofNat 52 m) := by
  have hhigh := h.exponentHigh
  have hstored : (e + Format.binary64.exponentBias +
      Format.binary64.mantissaBitsWithoutImplicit).toNat = b := by
    change (e + 1023 + 52).toNat = b
    omega
  have hfits : ¬2 ^ Format.binary64.exponentBits ≤ b + 1 := by
    change ¬2048 ≤ b + 1
    omega
  have hbits : m.log2 + 1 = Format.binary64.mantissaBits := by
    rw [h.log2]
    rfl
  rw [UnpackedFloat.pack]
  simp only [hstored, if_neg hfits, if_pos hbits]

/-- The bits are the sign, the exponent and the mantissa without its leading bit. -/
theorem toNat_toBits_ofParts (s : Sign) {b : Nat} (hb : (b : Int) = e + 1075) :
    (ofParts s m e h.pos).toBits.toNat = s.toBitVec.toNat * 2 ^ 63 + b * 2 ^ 52 + (m - 2 ^ 52) := by
  have hlow := h.low
  have hhigh := h.high
  have hexponent := h.exponentHigh
  change (UnpackedFloat.pack Format.binary64 (.finite s m e h.pos)).toNat = _
  rw [pack_normal h s hb, packComponents, BitVec.toNat_append,
    ← Nat.shiftLeft_add_eq_or_of_lt (BitVec.isLt _), BitVec.toNat_append,
    ← Nat.shiftLeft_add_eq_or_of_lt (BitVec.isLt _), BitVec.toNat_ofNat, BitVec.toNat_ofNat,
    Nat.shiftLeft_eq, Nat.shiftLeft_eq]
  omega

theorem ofFloat_ofParts (s : Sign) :
    Binary.ofFloat (ofParts s m e h.pos) = ⟨isMinus s, m, e⟩ := by
  obtain ⟨b, hb, hpos, hlt⟩ := h.biased
  have hlow := h.low
  have hhigh := h.high
  have hbits := toNat_toBits_ofParts h s hb
  have hsign : s.toBitVec.toNat < 2 := s.toBitVec.isLt
  have hfraction : (ofParts s m e h.pos).toBits.toNat % twoTo 52 = m - 2 ^ 52 := by
    change _ % 4503599627370496 = _
    omega
  have hfield : (ofParts s m e h.pos).toBits.toNat / twoTo 52 % twoTo 11 = b := by
    change _ / 4503599627370496 % 2048 = _
    omega
  have hminus : decide (twoTo 63 ≤ (ofParts s m e h.pos).toBits.toNat) = isMinus s := by
    rw [hbits]
    cases s with
    | positive =>
      change decide (9223372036854775808 ≤ 0 * 2 ^ 63 + b * 2 ^ 52 + (m - 2 ^ 52)) = false
      exact decide_eq_false (by omega)
    | negative =>
      change decide (9223372036854775808 ≤ 1 * 2 ^ 63 + b * 2 ^ 52 + (m - 2 ^ 52)) = true
      exact decide_eq_true (by omega)
  have hmantissa : twoTo 52 + (m - 2 ^ 52) = m := by
    change 4503599627370496 + _ = _
    omega
  have hexponent : Int.ofNat b - 1075 = e := by
    change (b : Int) - 1075 = e
    omega
  rw [Binary.ofFloat]
  simp only [hfraction, hfield, if_neg hpos.ne', hminus, hmantissa, hexponent]

theorem unpack_ofParts (s : Sign) : (ofParts s m e h.pos).toModel.unpack = .finite s m e h.pos := by
  obtain ⟨b, hb, hpos, hlt⟩ := h.biased
  have hlow := h.low
  have hhigh := h.high
  have hstored : (BitVec.ofNat 11 b).toNat = b := by
    rw [BitVec.toNat_ofNat]
    omega
  have hfinite : BitVec.ofNat 11 b ≠ -1#11 := by
    intro he
    have hall := congrArg BitVec.toNat he
    rw [hstored] at hall
    change b = 2047 at hall
    omega
  have hnormal : BitVec.ofNat 11 b ≠ 0#11 := by
    intro he
    have hnone := congrArg BitVec.toNat he
    rw [hstored] at hnone
    change b = 0 at hnone
    omega
  have hmantissa : (1#1 ++ BitVec.ofNat 52 m).toNat = m := by
    rw [BitVec.toNat_append, ← Nat.shiftLeft_add_eq_or_of_lt (BitVec.isLt _), BitVec.toNat_ofNat,
      Nat.shiftLeft_eq]
    change 1 * 2 ^ 52 + m % 2 ^ 52 = m
    omega
  change UnpackedFloat.unpack Format.binary64
    (UnpackedFloat.pack Format.binary64 (.finite s m e h.pos)) = _
  rw [pack_normal h s hb, UnpackedFloat.unpack]
  simp only [unpackExponent_packComponents, unpackMantissa_packComponents,
    unpackSign_packComponents, if_neg hfinite, if_neg hnormal, hmantissa, hstored]
  congr 1
  · cases s <;> rfl
  · change (b : Int) - (1023 + 52) = e
    omega

end Packing

section Rounding

/-- A mantissa whose last bits are zero. -/
theorem shift_exact (m k : Nat) : ExtendedMantissa.ofMantissaAndAccuracy (m * 2 ^ k) .exact >>> k =
    ExtendedMantissa.ofMantissaAndAccuracy m .exact := by
  change Nat.repeat ExtendedMantissa.shiftRightOne k ⟨m * 2 ^ k, false, false⟩ = ⟨m, false, false⟩
  induction k generalizing m with
  | zero => simp [Nat.repeat]
  | succ k ih =>
    have heven : m * 2 ^ (k + 1) = (2 * m) * 2 ^ k := by ring
    rw [Nat.repeat, heven, ih]
    simp [ExtendedMantissa.shiftRightOne]

theorem mantissa_shift (em : ExtendedMantissa) (k : Nat) :
    (em >>> k).mantissa = em.mantissa / 2 ^ k := by
  change (Nat.repeat ExtendedMantissa.shiftRightOne k em).mantissa = _
  induction k with
  | zero => simp [Nat.repeat]
  | succ k ih =>
    change (Nat.repeat ExtendedMantissa.shiftRightOne k em).mantissa / 2 = _
    rw [ih, Nat.div_div_eq_div_mul, pow_succ]

/-- Rounding goes to one of the two neighbors. -/
theorem roundedMantissa_cases (em : ExtendedMantissa) :
    em.roundedMantissa = em.mantissa ∨ em.roundedMantissa = em.mantissa + 1 := by
  obtain ⟨m, round, sticky⟩ := em
  change Accuracy.roundToNearestEven m _ = m ∨ Accuracy.roundToNearestEven m _ = m + 1
  cases round <;> cases sticky
  · exact Or.inl rfl
  · exact Or.inl rfl
  · change m + m % 2 = m ∨ m + m % 2 = m + 1
    omega
  · exact Or.inr rfl

theorem targetExponent_eq {m : Nat} {e : Int} :
    Format.binary64.targetExponent (totalExponent m e) =
      max ((m.log2 : Int) + 1 + e - 53) (-1074) := rfl

variable {m : Nat} {e : Int} (h : Normal m e)
include h

/-- Zeros behind the mantissa are shifted out. -/
theorem shiftToTargetExponent_exact (k : Nat) :
    shiftToTargetExponent Format.binary64 (m * 2 ^ k) (e - k) .exact =
      (ExtendedMantissa.ofMantissaAndAccuracy m .exact, e) := by
  have hlow := h.exponentLow
  have hlog : (m * 2 ^ k).log2 = 52 + k := by
    rw [Nat.log2_eq_iff (Nat.mul_ne_zero h.pos.ne' (by positivity)), pow_add]
    refine ⟨Nat.mul_le_mul_right _ h.low, ?_⟩
    have hpow : 2 ^ (52 + k + 1) = 2 ^ 53 * 2 ^ k := by ring
    rw [hpow]
    exact Nat.mul_lt_mul_of_pos_right h.high (by positivity)
  have hamount :
      (Format.binary64.targetExponent (totalExponent (m * 2 ^ k) (e - k)) - (e - k)).toNat = k := by
    rw [targetExponent_eq, hlog]
    omega
  rw [shiftToTargetExponent, shiftToExponent]
  simp only [hamount, shift_exact]
  congr 1
  omega

theorem roundWithAccuracy_exact (s : Sign) (k : Nat) :
    roundWithAccuracy Format.binary64 s (m * 2 ^ k) (e - k) .exact = .finite s m e h.pos := by
  have hagain : shiftToTargetExponent Format.binary64 m e .exact =
      (ExtendedMantissa.ofMantissaAndAccuracy m .exact, e) := by
    simpa using shiftToTargetExponent_exact h 0
  have hrounded : (ExtendedMantissa.ofMantissaAndAccuracy m .exact).roundedMantissa = m := rfl
  have hmantissa : (ExtendedMantissa.ofMantissaAndAccuracy m .exact).mantissa = m := rfl
  rw [roundWithAccuracy]
  simp only [shiftToTargetExponent_exact h k, hrounded, hagain, hmantissa, dif_neg h.pos.ne']

omit h in
/-- A mantissa that was rounded up to one bit more is a power of two. -/
theorem exists_normal {r j : Nat} (hlow : 2 ^ 52 ≤ r) (hhigh : r ≤ 2 ^ 53) (hj : j ≤ 10) :
    ∃ m k t : Nat, Normal m k ∧ r = m * 2 ^ t ∧ (j : Int) = k - t ∧ m * 2 ^ k ≤ 2 ^ 63 := by
  have hpow : 2 ^ j ≤ 2 ^ 10 := Nat.pow_le_pow_right (by norm_num) hj
  rcases hhigh.lt_or_eq with hlt | rfl
  · refine ⟨r, j, 0, ⟨hlow, hlt, by omega, by omega⟩, by simp, by simp, ?_⟩
    calc r * 2 ^ j ≤ 2 ^ 53 * 2 ^ 10 := Nat.mul_le_mul hlt.le hpow
      _ = 2 ^ 63 := by norm_num
  · refine ⟨2 ^ 52, j + 1, 1, ⟨le_rfl, by norm_num, by omega, by omega⟩, by norm_num, by omega, ?_⟩
    calc 2 ^ 52 * 2 ^ (j + 1) = 2 ^ 53 * 2 ^ j := by ring
      _ ≤ 2 ^ 53 * 2 ^ 10 := Nat.mul_le_mul_left _ hpow
      _ = 2 ^ 63 := by norm_num

omit h in
/-- A large integer is rounded to a multiple of a power of two. -/
theorem roundWithAccuracy_large (s : Sign) {n : Nat} (hlow : 2 ^ 53 ≤ n) (hhigh : n < 2 ^ 63) :
    ∃ (m k : Nat) (h : Normal m k), 0 < k ∧ m * 2 ^ k ≤ 2 ^ 63 ∧
      roundWithAccuracy Format.binary64 s (n * 2 ^ 53) (-53) .exact = .finite s m k h.pos := by
  obtain ⟨j, hj, hj1, hj10⟩ : ∃ j : Nat, n.log2 = 52 + j ∧ 1 ≤ j ∧ j ≤ 10 := by
    have hmost : n.log2 < 63 := (Nat.log2_lt (by omega)).mpr hhigh
    have hleast : 53 ≤ n.log2 := (Nat.le_log2 (by omega)).mpr hlow
    exact ⟨n.log2 - 52, by omega, by omega, by omega⟩
  obtain ⟨hn, hn'⟩ := (Nat.log2_eq_iff (by omega)).mp hj
  have hlog : (n * 2 ^ 53).log2 = 105 + j := by
    rw [Nat.log2_eq_iff (by omega)]
    have hpow : 2 ^ (105 + j) = 2 ^ (52 + j) * 2 ^ 53 := by ring
    have hpow' : 2 ^ (105 + j + 1) = 2 ^ (52 + j + 1) * 2 ^ 53 := by ring
    rw [hpow, hpow']
    exact ⟨Nat.mul_le_mul_right _ hn, Nat.mul_lt_mul_of_pos_right hn' (by norm_num)⟩
  have hamount : (Format.binary64.targetExponent (totalExponent (n * 2 ^ 53) (-53)) - (-53)).toNat =
      j + 53 := by
    rw [targetExponent_eq, hlog]
    omega
  let em := ExtendedMantissa.ofMantissaAndAccuracy (n * 2 ^ 53) .exact >>> (j + 53)
  have hfirst : shiftToTargetExponent Format.binary64 (n * 2 ^ 53) (-53) .exact =
      (em, (j : Int)) := by
    rw [shiftToTargetExponent, shiftToExponent]
    simp only [hamount]
    congr 1
    omega
  have hmantissa : em.mantissa = n / 2 ^ j := by
    have hshift : em.mantissa = n * 2 ^ 53 / 2 ^ (j + 53) := mantissa_shift _ _
    have hpow : 2 ^ (j + 53) = 2 ^ 53 * 2 ^ j := by ring
    rw [hshift, hpow, ← Nat.div_div_eq_div_mul, Nat.mul_div_cancel _ (by norm_num)]
  have hleast : 2 ^ 52 ≤ em.mantissa := by
    rw [hmantissa, Nat.le_div_iff_mul_le (by positivity), ← pow_add]
    exact hn
  have hmost : em.mantissa < 2 ^ 53 := by
    rw [hmantissa, Nat.div_lt_iff_lt_mul (by positivity), ← pow_add]
    have hpow : 2 ^ (53 + j) = 2 ^ (52 + j + 1) := by ring
    rw [hpow]
    exact hn'
  have hcases := roundedMantissa_cases em
  obtain ⟨m, k, t, h, hr, hk, hle⟩ :=
    exists_normal (r := em.roundedMantissa) (by omega) (by omega) hj10
  have hsecond : shiftToTargetExponent Format.binary64 em.roundedMantissa j .exact =
      (ExtendedMantissa.ofMantissaAndAccuracy m .exact, (k : Int)) := by
    rw [hr, hk]
    exact shiftToTargetExponent_exact h t
  have hlast : (ExtendedMantissa.ofMantissaAndAccuracy m .exact).mantissa = m := rfl
  refine ⟨m, k, h, by omega, hle, ?_⟩
  rw [roundWithAccuracy]
  simp only [hfirst, hsecond, hlast, dif_neg h.pos.ne']

end Rounding

section Integers

theorem one_eq_ofParts : Float.exactlyRepresentablePowersOfTen[0] =
    ofParts .positive (2 ^ 52) (-52) (by norm_num) := by decide +kernel

theorem toFloat_small {n k : Nat} (hn : n < 2 ^ 53) (hk : (n.log2 : Int) - 52 = -k)
    (h : Normal (n * 2 ^ k) (-k)) :
    n.toUInt64.toFloat = ofParts .positive (n * 2 ^ k) (-k) h.pos := by
  have hpos : 0 < n := Nat.pos_of_mul_pos_right h.pos
  have hexact : n.toUInt64.toNat = n := Nat.mod_eq_of_lt (by omega)
  have htarget : Format.binary64.targetExponent (totalExponent n 0) = -k := by
    rw [targetExponent_eq]
    omega
  have hround : UnpackedFloat.round Format.binary64 .positive n 0 =
      .finite .positive (n * 2 ^ k) (-k) h.pos := by
    have hamount : (0 - -(k : Int)).toNat = k := by omega
    rw [UnpackedFloat.round, htarget]
    simp only [decreaseExponent, hamount, Nat.shiftLeft_eq]
    simpa using roundWithAccuracy_exact h .positive 0
  have hnormalize : UnpackedFloat.ofNat Format.binary64 n =
      UnpackedFloat.round Format.binary64 .positive n 0 := by
    have hcompare : compare (n : Int) 0 = .gt := Int.compare_eq_gt.mpr (by omega)
    rw [UnpackedFloat.ofNat, UnpackedFloat.ofInt, UnpackedFloat.normalize, hcompare]
    rfl
  change (⟨Float.Model.pack (UnpackedFloat.ofNat Format.binary64 n.toUInt64.toNat)⟩ : Float) = _
  rw [hexact, hnormalize, hround]
  rfl

/-- A small integer is stored as it is. -/
theorem ofNat_small {n : Nat} (hpos : 0 < n) (hn : n < 2 ^ 53) :
    ∃ (k : Nat) (h : Normal (n * 2 ^ k) (-k)),
      Float.ofNat n = ofParts .positive (n * 2 ^ k) (-k) h.pos := by
  have hlog : n.log2 < 53 := (Nat.log2_lt hpos.ne').mpr hn
  obtain ⟨k, hk⟩ : ∃ k, n.log2 + k = 52 := ⟨52 - n.log2, by omega⟩
  have hnormal : Normal (n * 2 ^ k) (-k) := by
    refine ⟨?_, ?_, by omega, by omega⟩
    · calc 2 ^ 52 = 2 ^ n.log2 * 2 ^ k := by rw [← pow_add, hk]
        _ ≤ n * 2 ^ k := Nat.mul_le_mul_right _ (Nat.log2_self_le hpos.ne')
    · calc n * 2 ^ k < 2 ^ (n.log2 + 1) * 2 ^ k :=
        Nat.mul_lt_mul_of_pos_right Nat.lt_log2_self (by positivity)
        _ = 2 ^ 53 := by rw [← pow_add, Nat.add_right_comm, hk]
  have hone : Normal (2 ^ 52) (-52) := ⟨le_rfl, by norm_num, by norm_num, by norm_num⟩
  have hproduct : UnpackedFloat.mul Format.binary64 (.finite .positive (n * 2 ^ k) (-k) hnormal.pos)
      (.finite .positive (2 ^ 52) (-52) hone.pos) =
        .finite .positive (n * 2 ^ k) (-k) hnormal.pos := by
    have hexact := roundWithAccuracy_exact hnormal .positive 52
    exact hexact
  refine ⟨k, hnormal, ?_⟩
  have hfits : n < 2 ^ 53 ∧ 0 ≤ 22 := ⟨hn, by norm_num⟩
  change Float.ofScientific n false 0 = _
  rw [Float.ofScientific, dif_pos hfits]
  change n.toUInt64.toFloat * Float.exactlyRepresentablePowersOfTen[0] = _
  rw [toFloat_small hn (by omega) hnormal, one_eq_ofParts]
  change (⟨Float.Model.pack (UnpackedFloat.mul Format.binary64 _ _)⟩ : Float) = _
  rw [unpack_ofParts hnormal, unpack_ofParts hone, hproduct]
  rfl

theorem ofNat_eq_round {n : Nat} (hn : 2 ^ 53 ≤ n) : Float.ofNat n =
    ⟨Float.Model.pack (roundWithAccuracy Format.binary64 .positive (n * 2 ^ 53) (-53) .exact)⟩ := by
  have hnot : ¬(n < 2 ^ 53 ∧ 0 ≤ 22) := by omega
  have hpos : ¬n = 0 := by omega
  have hsmall : ¬(0 : Int) < -(2 ^ Format.binary64.exponentBits + (n.log2 : Int)) := by
    change ¬(0 : Int) < -(2048 + (n.log2 : Int))
    omega
  change Float.ofScientific n false 0 = _
  rw [Float.ofScientific, dif_neg hnot]
  change (⟨Float.Model.pack (UnpackedFloat.ofScientific Format.binary64 n 0)⟩ : Float) = _
  rw [UnpackedFloat.ofScientific, dif_neg hpos, if_neg (by decide), if_neg hsmall, if_pos le_rfl]
  change (⟨Float.Model.pack
    (roundWithAccuracy Format.binary64 .positive (n <<< 53 * 1) (-53) .exact)⟩ : Float) = _
  rw [Nat.mul_one, Nat.shiftLeft_eq]

/-- A large multiple of a power of two is stored as it is. -/
theorem ofNat_multiple {m k : Nat} (h : Normal m k) (hk : 0 < k) :
    Float.ofNat (m * 2 ^ k) = ofParts .positive m k h.pos := by
  have hlarge : 2 ^ 53 ≤ m * 2 ^ k := by
    calc 2 ^ 53 = 2 ^ 52 * 2 ^ 1 := by norm_num
      _ ≤ m * 2 ^ k := Nat.mul_le_mul h.low (Nat.pow_le_pow_right (by norm_num) hk)
  have hexact := roundWithAccuracy_exact h .positive (k + 53)
  have hmantissa : m * 2 ^ (k + 53) = m * 2 ^ k * 2 ^ 53 := by ring
  have hexponent : (k : Int) - (k + 53 : Nat) = -53 := by omega
  rw [hmantissa, hexponent] at hexact
  rw [ofNat_eq_round hlarge, hexact]
  rfl

theorem ofNat_large {n : Nat} (hlow : 2 ^ 53 ≤ n) (hhigh : n < 2 ^ 63) :
    ∃ (m k : Nat) (h : Normal m k), 0 < k ∧ m * 2 ^ k ≤ 2 ^ 63 ∧
    Float.ofNat n = ofParts .positive m k h.pos := by
  obtain ⟨m, k, h, hk, hle, hround⟩ := roundWithAccuracy_large .positive hlow hhigh
  refine ⟨m, k, h, hk, hle, ?_⟩
  rw [ofNat_eq_round hlow, hround]
  rfl

/-- Storing an integer rounds it to one that is stored as the same number. -/
theorem exists_stored {n : Nat} (hpos : 0 < n) (hn : n ≤ 2 ^ 63) :
    ∃ (v m : Nat) (e : Int) (h : Normal m e), 0 < v ∧ v ≤ 2 ^ 63 ∧ (v : ℚ) = m * 2 ^ e ∧
      Float.ofNat n = ofParts .positive m e h.pos ∧ Float.ofNat v = Float.ofNat n := by
  by_cases hsmall : n < 2 ^ 53
  · obtain ⟨k, h, hstored⟩ := ofNat_small hpos hsmall
    refine ⟨n, n * 2 ^ k, -k, h, hpos, hn, ?_, hstored, rfl⟩
    push_cast
    rw [zpow_neg, zpow_natCast]
    field_simp
  · obtain ⟨m, k, h, hk, hle, hstored⟩ :
        ∃ (m k : Nat) (h : Normal m k), 0 < k ∧ m * 2 ^ k ≤ 2 ^ 63 ∧
        Float.ofNat n = ofParts .positive m k h.pos := by
      rcases hn.lt_or_eq with hlt | rfl
      · exact ofNat_large (by omega) hlt
      · have htop : Normal (2 ^ 52) (11 : Nat) := ⟨le_rfl, by norm_num, by norm_num, by norm_num⟩
        exact ⟨2 ^ 52, 11, htop, by norm_num, by norm_num, ofNat_multiple htop (by norm_num)⟩
    have hv : 0 < m * 2 ^ k := Nat.mul_pos h.pos (by positivity)
    refine ⟨m * 2 ^ k, m, k, h, hv, hle, ?_, hstored, (ofNat_multiple h hk).trans hstored.symm⟩
    push_cast
    rw [zpow_natCast]

theorem ofInt_neg {n : Nat} (hn : 0 < n) : Float.ofInt (-n) = (Float.ofNat n).neg := by
  cases n with
  | zero => contradiction
  | succ n => rfl

variable {m : Nat} {e : Int} (h : Normal m e)
include h

theorem neg_ofParts : (ofParts .positive m e h.pos).neg = ofParts .negative m e h.pos := by
  change (⟨Float.Model.pack (ofParts .positive m e h.pos).toModel.unpack.neg⟩ : Float) = _
  rw [unpack_ofParts h]
  rfl

theorem isFinite_ofParts (s : Sign) : (ofParts s m e h.pos).isFinite = true := by
  change (ofParts s m e h.pos).toModel.unpack.isFinite = true
  rw [unpack_ofParts h]
  rfl

theorem floatNearest_ofParts (s : Sign) {v : Nat} (hv : (v : ℚ) = m * 2 ^ e) :
    floatNearest (ofParts s m e h.pos) = saturated (if isMinus s then -v else v) := by
  have hsize : (0 : ℚ) ≤ m * 2 ^ e := hv ▸ Nat.cast_nonneg v
  rw [floatNearest_of_finite (isFinite_ofParts h s), ofFloat_ofParts h, Binary.value,
    roundAway_signed _ hsize, ← hv, round_natCast]

omit h in
/-- Storing a second time loses nothing. -/
theorem ofInt_floatNearest {n : Int} (hn : Source.Scan.inRange n = true) :
    (Float.ofInt n).isFinite = true ∧ Float.ofInt (floatNearest (Float.ofInt n)) =
      Float.ofInt n := by
  simp only [Source.Scan.inRange, Bool.and_eq_true, decide_eq_true_eq] at hn
  rcases lt_trichotomy n 0 with hneg | rfl | hpos
  · obtain ⟨a, ha, rfl⟩ : ∃ a : Nat, 0 < a ∧ n = -a := ⟨n.natAbs, by omega, by omega⟩
    obtain ⟨v, m, e, h, hv, hle, hvalue, hstored, hagain⟩ := exists_stored ha (by omega)
    have hsaturated : saturated (-v) = -v := by
      rw [saturated]
      omega
    have hminus : isMinus .negative = true := rfl
    rw [ofInt_neg ha, hstored, neg_ofParts h]
    refine ⟨isFinite_ofParts h _, ?_⟩
    rw [floatNearest_ofParts h _ hvalue, hminus, if_pos rfl, hsaturated, ofInt_neg hv, hagain,
      hstored, neg_ofParts h]
  · decide +kernel
  · obtain ⟨a, ha, rfl⟩ : ∃ a : Nat, 0 < a ∧ n = a := ⟨n.natAbs, by omega, by omega⟩
    obtain ⟨v, m, e, h, hv, hle, hvalue, hstored, hagain⟩ := exists_stored ha (by omega)
    have hplus : isMinus .positive = false := rfl
    change (Float.ofNat a).isFinite = true ∧
      Float.ofInt (floatNearest (Float.ofNat a)) = Float.ofNat a
    rw [hstored]
    refine ⟨isFinite_ofParts h _, ?_⟩
    rw [floatNearest_ofParts h _ hvalue, hplus, if_neg Bool.false_ne_true, ← hstored, ← hagain]
    rcases hle.lt_or_eq with hlt | rfl
    · have hsaturated : saturated v = v := by
        rw [saturated]
        omega
      rw [hsaturated]
      rfl
    · -- The next number above the range is the one that the end of the range is stored as.
      decide +kernel

end Integers

end ArchDiagram.Decimal
