import Mathlib.Data.Rat.Floor
import Mathlib.Tactic.GCongr
import Mathlib.Tactic.Linarith
import Mathlib.Tactic.NormNum
import Mathlib.Tactic.Positivity
import TenantGate.Number.Numeral
import TenantGate.Proofs.Number.Binary64
/-!
# The exact values of doubles

A finite double denotes a rational number (`Binary64.toRat`). Comparing two doubles compares what
they denote (`le_iff`, `lt_iff`), and cutting off the fraction is rounding toward zero
(`truncate_eq`). From `2 ^ 53` on every double is a whole number (`exists_int_of_le_abs`).
-/

namespace TenantGate

/-! ### Rounding toward zero

A bound on the integer part is a bound on the number itself, on either side of zero. -/

/-- A rational number without its fraction. -/
def towardZero (q : ℚ) : ℤ := if 0 ≤ q then ⌊q⌋ else ⌈q⌉

/-- The sign may be taken out. -/
theorem towardZero_neg (q : ℚ) : towardZero (-q) = -towardZero q := by
  unfold towardZero
  rcases lt_trichotomy q 0 with hq | rfl | hq
  · rw [if_pos (by linarith), if_neg (by linarith), Int.floor_neg]
  · simp
  · rw [if_neg (by linarith), if_pos hq.le, Int.ceil_neg]

/-- A whole number is its own integer part. -/
@[simp] theorem towardZero_intCast (i : ℤ) : towardZero i = i := by
  unfold towardZero
  split
  · exact Int.floor_intCast i
  · exact Int.ceil_intCast i

/-- A positive bound lies above a number if it lies above its integer part. -/
theorem towardZero_lt_iff {q : ℚ} {i : ℤ} (hi : 0 < i) : towardZero q < i ↔ q < i := by
  have hcast : (0 : ℚ) < i := by exact_mod_cast hi
  unfold towardZero
  split
  next => exact Int.floor_lt
  next hneg =>
    have hceil : ⌈q⌉ ≤ 0 := Int.ceil_le.2 (by simpa using (not_le.1 hneg).le)
    constructor
    · intro _
      linarith
    · intro _
      omega

/-- An integer that is not positive is at most the integer part of what lies less than one below
it. -/
theorem le_towardZero_iff {q : ℚ} {i : ℤ} (hi : i ≤ 0) :
    i ≤ towardZero q ↔ ((i - 1 : ℤ) : ℚ) < q := by
  unfold towardZero
  split
  next hpos =>
    have hfloor : 0 ≤ ⌊q⌋ := Int.floor_nonneg.2 hpos
    have hcast : ((i - 1 : ℤ) : ℚ) < 0 := by exact_mod_cast (by omega : i - 1 < 0)
    constructor
    · intro _
      linarith
    · intro _
      omega
  next => rw [← Int.lt_ceil, Int.sub_one_lt_iff]

/-! ### Values

The exact value of a double as a rational number. All that the model computes of a double,
comparisons and integer parts, is computed with whole numbers; here it is shown to be about that
value. -/

namespace Binary64

variable {x y : Binary64}

/-- The number that the bits of a finite double denote. -/
def toRat (x : Binary64) : ℚ := (if x.isNegative then -1 else 1) * (x.mantissa * 2 ^ x.exponent)

/-- The denominator is a power of two. -/
theorem denominator_pos (x : Binary64) : 0 < x.denominator := Nat.two_pow_pos _

/-- A mantissa has at most 53 binary digits. -/
theorem mantissa_lt (x : Binary64) : x.mantissa < 2 ^ 53 := by
  have hfraction : x.fractionField < 2 ^ 52 := Nat.mod_lt _ (by decide)
  unfold mantissa
  rw [Nat.pow_eq]
  split <;> omega

/-- The magnitude is the quotient of the two whole numbers that the comparisons go by. -/
theorem magnitude_eq (x : Binary64) :
    (x.mantissa : ℚ) * 2 ^ x.exponent = x.numerator / x.denominator := by
  unfold numerator denominator
  rw [Nat.pow_eq, Nat.pow_eq]
  obtain ⟨n, hn | hn⟩ := x.exponent.eq_nat_or_neg
  · simp [hn]
  · simp [hn, div_eq_mul_inv]

/-- The value is the quotient of the signed numerator and the denominator. -/
theorem toRat_eq (x : Binary64) : x.toRat = x.signedNumerator / x.denominator := by
  rw [toRat, magnitude_eq, signedNumerator]
  split
  · push_cast
    ring
  · push_cast
    ring

/-- To compare doubles is to compare what they denote. -/
theorem le_iff : x.le y = true ↔ x.toRat ≤ y.toRat := by
  have hx : (0 : ℚ) < x.denominator := by exact_mod_cast x.denominator_pos
  have hy : (0 : ℚ) < y.denominator := by exact_mod_cast y.denominator_pos
  rw [toRat_eq, toRat_eq, div_le_div_iff₀ hx hy, le, decide_eq_true_eq]
  norm_cast

/-- The same for the strict comparison. -/
theorem lt_iff : x.lt y = true ↔ x.toRat < y.toRat := by
  have hx : (0 : ℚ) < x.denominator := by exact_mod_cast x.denominator_pos
  have hy : (0 : ℚ) < y.denominator := by exact_mod_cast y.denominator_pos
  rw [toRat_eq, toRat_eq, div_lt_div_iff₀ hx hy, lt, decide_eq_true_eq]
  norm_cast

/-- The integer part of a double is that of the number that it denotes. -/
theorem truncate_eq (x : Binary64) : x.truncate = towardZero x.toRat := by
  have hnonneg : (0 : ℚ) ≤ x.numerator / x.denominator := by positivity
  have hfloor : towardZero (x.numerator / x.denominator) = (x.numerator / x.denominator : ℕ) := by
    rw [towardZero, if_pos hnonneg, Rat.floor_natCast_div_natCast]
    norm_cast
  rw [truncate, toRat, magnitude_eq]
  split
  · rw [neg_one_mul, towardZero_neg, hfloor]
  · rw [one_mul, hfloor]

/-- The magnitude of the value, without the sign. -/
theorem abs_toRat (x : Binary64) : |x.toRat| = x.mantissa * 2 ^ x.exponent := by
  have hnonneg : (0 : ℚ) ≤ x.mantissa * 2 ^ x.exponent :=
    mul_nonneg (Nat.cast_nonneg _) (zpow_pos (by norm_num) _).le
  rw [toRat]
  split
  · rw [neg_one_mul, abs_neg, abs_of_nonneg hnonneg]
  · rw [one_mul, abs_of_nonneg hnonneg]

/-- A double so large that the last place of its mantissa counts ones is whole. -/
theorem exists_int_of_le_abs (h : 2 ^ 53 ≤ |x.toRat|) : ∃ i : ℤ, x.toRat = i := by
  have hmantissa : (x.mantissa : ℚ) < 2 ^ 53 := by exact_mod_cast x.mantissa_lt
  rcases lt_or_ge x.exponent 0 with hneg | hpos
  · -- with a negative exponent the magnitude is at most the mantissa
    exfalso
    have hpow : (2 : ℚ) ^ x.exponent ≤ 1 := zpow_le_one_of_nonpos₀ (by norm_num) hneg.le
    have hle : (x.mantissa : ℚ) * 2 ^ x.exponent ≤ x.mantissa :=
      mul_le_of_le_one_right (Nat.cast_nonneg _) hpow
    rw [abs_toRat] at h
    linarith
  · refine ⟨x.signedNumerator, ?_⟩
    have hden : x.denominator = 1 := by
      rw [denominator, show (-x.exponent).toNat = 0 by omega, Nat.pow_eq, Nat.pow_zero]
    rw [toRat_eq, hden, Nat.cast_one, div_one]

/-! ### Words of 64 bits

The limits of the signed word as doubles: the least is exact, and the greatest is rounded up to `2 ^
63`. -/

/-- The least signed word is a double. -/
theorem toRat_ofInt_least : (ofInt Number.int64Least).toRat = (-2 ^ 63 : ℤ) := by
  have hbits : ofInt Number.int64Least = ⟨0xC3E0000000000000⟩ := by decide +kernel
  have hnegative : isNegative ⟨0xC3E0000000000000⟩ = true := by decide +kernel
  have hmantissa : mantissa ⟨0xC3E0000000000000⟩ = 2 ^ 52 := by decide +kernel
  have hexponent : exponent ⟨0xC3E0000000000000⟩ = 11 := by decide +kernel
  rw [hbits, toRat, hnegative, hmantissa, hexponent]
  norm_num

/-- The greatest signed word is rounded up. -/
theorem toRat_ofInt_greatest : (ofInt Number.int64Greatest).toRat = (2 ^ 63 : ℤ) := by
  have hbits : ofInt Number.int64Greatest = ⟨0x43E0000000000000⟩ := by decide +kernel
  have hnegative : isNegative ⟨0x43E0000000000000⟩ = false := by decide +kernel
  have hmantissa : mantissa ⟨0x43E0000000000000⟩ = 2 ^ 52 := by decide +kernel
  have hexponent : exponent ⟨0x43E0000000000000⟩ = 11 := by decide +kernel
  rw [hbits, toRat, hnegative, hmantissa, hexponent]
  norm_num

/-- What is too large for the signed word by itself is not rounded into its range. -/
theorem le_toRat_ofInt {i : ℤ} (hle : 2 ^ 63 ≤ i) : ((2 ^ 63 : ℤ) : ℚ) ≤ (ofInt i).toRat := by
  have hsign : (ofInt i).isNegative = false := by
    rw [ofInt_eq, isNegative_ofParts (magnitudeBits_le _), decide_eq_false_iff_not]
    omega
  -- the exponent is at least that of `2 ^ 63`, and so the mantissa counts at least `2 ^ 11` in each
  -- place
  have hfield : 1086 ≤ (ofInt i).exponentField := by
    rw [ofInt_eq, exponentField_ofParts (magnitudeBits_le _),
      Nat.le_div_iff_mul_le (by decide)]
    exact le_magnitudeBits (k := 63) (by decide) (by decide) (by omega)
  have hnormal : (ofInt i).exponentField ≠ 0 := by omega
  have hmantissa : 2 ^ 52 ≤ (ofInt i).mantissa := by
    rw [mantissa, if_neg hnormal, Nat.pow_eq]
    exact Nat.le_add_right _ _
  have hexponent : 11 ≤ (ofInt i).exponent := by
    rw [exponent, if_neg hnormal]
    omega
  have hmantissa' : (2 ^ 52 : ℚ) ≤ (ofInt i).mantissa := by exact_mod_cast hmantissa
  have hpow : (2 ^ 11 : ℚ) ≤ 2 ^ (ofInt i).exponent := by
    rw [← zpow_natCast]
    exact zpow_le_zpow_right₀ (by norm_num) hexponent
  rw [toRat, hsign, if_neg (by decide), one_mul]
  calc ((2 ^ 63 : ℤ) : ℚ) = 2 ^ 52 * 2 ^ 11 := by norm_num
    _ ≤ _ := by gcongr

end Binary64
end TenantGate
