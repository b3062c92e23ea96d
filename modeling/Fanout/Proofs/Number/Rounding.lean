import Mathlib.Algebra.GroupWithZero.Nat
import Mathlib.Tactic.SplitIfs
import Fanout.Number.Shortest

/-!
Whole numbers of 64 bits held as floats. A float has 53 digits, so that a number from `2 ^ 63` on keeps
all but the last eleven, which are rounded to the nearest multiple of 2048 and, half-way, to an even one.
Rounded back to a word it is cut off at the largest word (`roundToWord_ofNat`).
-/

namespace Fanout.Number

/-- How often 2048 goes into a number, to the nearest; half-way to the even one. -/
def halfEven (n : Nat) : Nat :=
  if n % 2048 < 1024 then n / 2048
  else if n % 2048 = 1024 then n / 2048 + n / 2048 % 2
  else n / 2048 + 1

section Model

open Float.Model Float.Model.UnpackedFloat

/-- Shifting keeps the last digit that falls out, and whether there was anything behind it. -/
theorem shift_exact (m k : Nat) :
    ExtendedMantissa.mk m false false >>> (k + 1) =
      ⟨m / 2 ^ (k + 1), m / 2 ^ k % 2 != 0, m % 2 ^ k != 0⟩ := by
  induction k with
  | zero => simp [HShiftRight.hShiftRight, Nat.repeat, ExtendedMantissa.shiftRightOne, Nat.mod_one]
  | succ k ih =>
    change ExtendedMantissa.shiftRightOne (ExtendedMantissa.mk m false false >>> (k + 1)) = _
    have hmod : m % 2 ^ (k + 1) = m % 2 ^ k + 2 ^ k * (m / 2 ^ k % 2) := Nat.mod_pow_succ
    rw [ih, ExtendedMantissa.shiftRightOne, hmod, Nat.div_div_eq_div_mul, ← Nat.pow_succ]
    rcases Nat.mod_two_eq_zero_or_one (m / 2 ^ k) with h | h
    · simp [h]
    · simp [h]

/-- The mantissa of a number that is held with eleven digits less. -/
theorem roundedMantissa_shift (n : Nat) :
    (ExtendedMantissa.mk (n * 2 ^ 53) false false >>> 64).roundedMantissa = halfEven n := by
  rw [shift_exact (n * 2 ^ 53) 63]
  have hquotient : n * 2 ^ 53 / 2 ^ (63 + 1) = n / 2048 := by omega
  have hdigit : n * 2 ^ 53 / 2 ^ 63 % 2 = n % 2048 / 1024 := by omega
  have hrest : n * 2 ^ 53 % 2 ^ 63 = n % 1024 * 2 ^ 53 := by omega
  rw [hquotient, hdigit, hrest, halfEven]
  split_ifs with hless hhalf
  · have hround : n % 2048 / 1024 = 0 := by omega
    cases hsticky : n % 1024 * 2 ^ 53 != 0 <;> simp [hround] <;> rfl
  · have hround : n % 2048 / 1024 = 1 := by omega
    have hsticky : n % 1024 = 0 := by omega
    simp [hround, hsticky]
    rfl
  · have hround : n % 2048 / 1024 = 1 := by omega
    have hsticky : (n % 1024 * 2 ^ 53 != 0) = true := by
      simp only [bne_iff_ne]
      omega
    rw [hround, hsticky]
    rfl

variable {n : Nat}

theorem halfEven_bounds (hlow : 2 ^ 63 ≤ n) (hhigh : n < 2 ^ 64) :
    2 ^ 52 ≤ halfEven n ∧ halfEven n ≤ 2 ^ 53 := by
  unfold halfEven
  split_ifs <;> omega

theorem log2_eq {m k : Nat} (hlow : 2 ^ k ≤ m) (hhigh : m < 2 ^ (k + 1)) : m.log2 = k :=
  (Nat.log2_eq_iff (by have := Nat.two_pow_pos k; omega)).mpr ⟨hlow, hhigh⟩

/-- A mantissa of 53 digits stays as it is. -/
theorem shiftToTargetExponent_of_fits {m : Nat} (hlow : 2 ^ 52 ≤ m) (hhigh : m < 2 ^ 53) :
    shiftToTargetExponent Format.binary64 m 11 .exact = (⟨m, false, false⟩, 11) := by
  have htarget : Format.binary64.targetExponent (totalExponent m 11) = 11 := by
    rw [Format.targetExponent, totalExponent, log2_eq hlow hhigh]
    rfl
  rw [shiftToTargetExponent, htarget]
  rfl

/-- A mantissa that became one digit too long is shortened. -/
theorem shiftToTargetExponent_of_carry :
    shiftToTargetExponent Format.binary64 (2 ^ 53) 11 .exact = (⟨2 ^ 52, false, false⟩, 12) := by
  have htarget : Format.binary64.targetExponent (totalExponent (2 ^ 53) 11) = 12 := by
    rw [Format.targetExponent, totalExponent, Nat.log2_two_pow]
    rfl
  rw [shiftToTargetExponent, htarget]
  rfl

/-- Rounding leaves 53 digits of the nearest multiple. -/
theorem roundWithAccuracy_eq (hlow : 2 ^ 63 ≤ n) (hhigh : n < 2 ^ 64) :
    ∃ (m k : Nat) (hpos : 0 < m),
      roundWithAccuracy Format.binary64 .positive (n * 2 ^ 53) (-53) .exact =
        .finite .positive m k hpos ∧
      2 ^ 52 ≤ m ∧ m < 2 ^ 53 ∧ k ≤ 64 ∧ m * 2 ^ k = 2048 * halfEven n := by
  have htarget : Format.binary64.targetExponent (totalExponent (n * 2 ^ 53) (-53)) = 11 := by
    have hlog : (n * 2 ^ 53).log2 = 116 := log2_eq (by omega) (by omega)
    rw [Format.targetExponent, totalExponent, hlog]
    rfl
  have hfirst : shiftToTargetExponent Format.binary64 (n * 2 ^ 53) (-53) .exact =
      (ExtendedMantissa.mk (n * 2 ^ 53) false false >>> 64, 11) := by
    rw [shiftToTargetExponent, htarget]
    rfl
  obtain ⟨hmin, hmax⟩ := halfEven_bounds hlow hhigh
  rw [roundWithAccuracy, hfirst]
  dsimp only
  rw [roundedMantissa_shift]
  rcases Nat.lt_or_eq_of_le hmax with hfits | hcarry
  · rw [shiftToTargetExponent_of_fits hmin hfits]
    dsimp only
    rw [dif_neg (by omega)]
    exact ⟨_, 11, _, rfl, hmin, hfits, by decide, Nat.mul_comm _ _⟩
  · rw [hcarry, shiftToTargetExponent_of_carry]
    exact ⟨2 ^ 52, 12, by decide, rfl, by decide, by decide, by decide, by decide⟩

theorem toBits_ofModel (x : UnpackedFloat) :
    (Float.ofModel (Float.Model.pack x)).toBits.toNat =
      (UnpackedFloat.pack Format.binary64 x).toNat :=
  rfl

theorem toNat_packComponents (exponent : BitVec 11) (mantissa : BitVec 52) :
    (packComponents Format.binary64 .positive exponent mantissa).toNat =
      exponent.toNat * 2 ^ 52 + mantissa.toNat := by
  have hsign : Sign.positive.toBitVec = 0#1 := rfl
  rw [packComponents, hsign, BitVec.toNat_append, BitVec.toNat_append,
    ← Nat.shiftLeft_add_eq_or_of_lt mantissa.isLt, ← Nat.shiftLeft_add_eq_or_of_lt exponent.isLt,
    Nat.shiftLeft_eq, BitVec.toNat_zero, Nat.zero_shiftLeft, Nat.zero_add]

/-- The bits of a positive number of 53 digits. -/
theorem toBits_pack {m k : Nat} (hlow : 2 ^ 52 ≤ m) (hhigh : m < 2 ^ 53) (hk : k < 900)
    (hpos : 0 < m) :
    (Float.ofModel (Float.Model.pack (.finite .positive m k hpos))).toBits.toNat =
      (k + 1075) * 2 ^ 52 + (m - 2 ^ 52) := by
  have hbiased : ((k : Int) + Format.binary64.exponentBias + (52 : Nat)).toNat = k + 1075 := by
    have hbias : Format.binary64.exponentBias = 1023 := rfl
    rw [hbias]
    omega
  have hpack : UnpackedFloat.pack Format.binary64 (.finite .positive m k hpos) =
      packComponents Format.binary64 .positive (BitVec.ofNat 11 (k + 1075)) (BitVec.ofNat 52 m) := by
    delta UnpackedFloat.pack
    dsimp only
    rw [hbiased, log2_eq hlow hhigh, if_neg (by omega)]
    rfl
  rw [toBits_ofModel, hpack, toNat_packComponents, BitVec.toNat_ofNat, BitVec.toNat_ofNat]
  omega

/-- Bits of a positive number of 53 digits are taken apart into these digits. -/
theorem decode_of_toBits {x : Float} {m k : Nat} (hlow : 2 ^ 52 ≤ m) (hhigh : m < 2 ^ 53)
    (hk : k < 900) (hbits : x.toBits.toNat = (k + 1075) * 2 ^ 52 + (m - 2 ^ 52)) :
    ∃ narrow, decode x = .finite false ⟨m, k, narrow⟩ := by
  have hsign : ¬ Nat.pow 2 63 ≤ (k + 1075) * 2 ^ 52 + (m - 2 ^ 52) := by
    simp only [Nat.pow_eq]
    omega
  have hfield : ((k + 1075) * 2 ^ 52 + (m - 2 ^ 52)) / Nat.pow 2 52 % Nat.pow 2 11 = k + 1075 := by
    simp only [Nat.pow_eq]
    omega
  have hfraction : ((k + 1075) * 2 ^ 52 + (m - 2 ^ 52)) % Nat.pow 2 52 = m - 2 ^ 52 := by
    simp only [Nat.pow_eq]
    omega
  have hmantissa : Nat.pow 2 52 + (m - 2 ^ 52) = m := by
    simp only [Nat.pow_eq]
    omega
  have hexponent : ((k + 1075 : Nat) : Int) - 1075 = k := by omega
  unfold decode
  simp only [hbits, hsign, hfield, hfraction, hmantissa, hexponent]
  rw [if_neg (by omega), if_neg (by omega)]
  exact ⟨_, rfl⟩

/-- The float of a large number, as its model computes it. -/
theorem ofNat_eq (hlow : 2 ^ 63 ≤ n) :
    Float.ofNat n = Float.ofModel (Float.Model.pack
      (roundWithAccuracy Format.binary64 .positive (n * 2 ^ 53) (-53) .exact)) := by
  have hlarge : ¬ (n < 2 ^ 53 ∧ 0 ≤ 22) := by omega
  have hzero : n ≠ 0 := by omega
  have hscientific : UnpackedFloat.ofScientific Format.binary64 n 0 =
      roundWithAccuracy Format.binary64 .positive (n * 2 ^ 53) (-53) .exact := by
    have hlog : ¬ (0 : Int) < -((2 ^ Format.binary64.exponentBits : Int) + n.log2) := by
      have hpow : (2 ^ Format.binary64.exponentBits : Int) = 2048 := rfl
      omega
    rw [UnpackedFloat.ofScientific, dif_neg hzero, if_neg (by decide), if_neg hlog,
      if_pos (by decide)]
    have hmantissa : n <<< Format.binary64.mantissaBits * 10 ^ (0 : Int).toNat = n * 2 ^ 53 := by
      rw [Nat.shiftLeft_eq]
      exact Nat.mul_one _
    delta UnpackedFloat.mul
    dsimp only
    rw [hmantissa]
    rfl
  change Float.ofScientific n false 0 = _
  rw [Float.ofScientific, dif_neg hlarge]
  change Float.ofModel (Float.Model.pack (UnpackedFloat.ofScientific Format.binary64 n 0)) = _
  rw [hscientific]

end Model

theorem roundToWord_of_decode {x : Float} {m k : Nat} {narrow : Bool}
    (h : decode x = .finite false ⟨m, k, narrow⟩) (hk : k ≤ 64) :
    roundToWord x = min maxWord (m * 2 ^ k) := by
  have hexponent : (k : Int) ≤ 64 := by omega
  simp [roundToWord, h, hexponent]

/-- A number from `2 ^ 63` on that is held as a float and rounded back to a word. -/
theorem roundToWord_ofNat {n : Nat} (hlow : 2 ^ 63 ≤ n) (hhigh : n ≤ maxWord) :
    roundToWord (Float.ofNat n) = min maxWord (2048 * halfEven n) := by
  obtain ⟨m, k, hpos, hround, hmin, hmax, hk, hsame⟩ :=
    roundWithAccuracy_eq hlow (Nat.lt_of_le_of_lt hhigh (by decide))
  have hwithin : k < 900 := Nat.lt_of_le_of_lt hk (by decide)
  obtain ⟨narrow, hdecode⟩ := decode_of_toBits hmin hmax hwithin (toBits_pack hmin hmax hwithin hpos)
  rw [ofNat_eq hlow, hround, roundToWord_of_decode hdecode hk, hsame]

/-! ### Numbers as they are held -/

/-- A whole number as it is held: below `2 ^ 63` as it is, from there on as a float. -/
def held (n : Nat) : Nat :=
  if n < 2 ^ 63 then n else min maxWord (2048 * halfEven n)

/-- Nothing is lost below `2 ^ 63`, at multiples of 2048 and at the largest word. -/
theorem held_eq_self_iff {n : Nat} (h : n ≤ maxWord) :
    held n = n ↔ n < 2 ^ 63 ∨ 2048 ∣ n ∨ n = maxWord := by
  have hmax : maxWord = 2 ^ 64 - 1 := rfl
  unfold held halfEven
  split_ifs <;> omega

end Fanout.Number
