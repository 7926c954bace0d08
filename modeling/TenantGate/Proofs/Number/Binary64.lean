import Mathlib.Algebra.Group.Nat.Defs
import TenantGate.Number.Binary64
/-!
# Whole numbers as doubles

A whole number of at most 53 binary digits is a double, and no other whole number rounds to it: if
`ofInt i = ofInt j` for different `i` and `j`, both have a magnitude of `2 ^ 53` or more
(`eq_of_ofInt_eq`).
-/

namespace TenantGate.Binary64

/-! ### Sign and magnitude

Rounding does not look at the sign: a double of a whole number is the sign and the bits of the
magnitude, and both are found again in it. -/

/-- The bits, without the sign, of the double nearest to a whole number. -/
def magnitudeBits (n : Nat) : Nat :=
  if n = 0 then 0
  else
    let (m, e) := roundRatio 53 (-1074) n 1
    min ((e + 1074).toNat * Nat.pow 2 52 + m) infinityBits

theorem ofInt_eq (i : Int) : ofInt i = ofParts (i < 0) (magnitudeBits i.natAbs) := by
  rw [ofInt, ofRatio, magnitudeBits]
  split <;> rfl

/-- No magnitude is beyond infinity. -/
theorem magnitudeBits_le (n : Nat) : magnitudeBits n ≤ infinityBits := by
  rw [magnitudeBits]
  split
  · exact Nat.zero_le _
  · exact Nat.min_le_right _ _

/-- The sign is the highest bit. -/
theorem toNat_bits_ofParts {b : Bool} {n : Nat} (hn : n ≤ infinityBits) :
    (ofParts b n).bits.toNat = (if b then 2 ^ 63 else 0) + n := by
  have hinfinity : infinityBits < 2 ^ 63 := by decide
  cases b <;> simp only [ofParts, UInt64.toNat_ofNat', Nat.pow_eq, Bool.false_eq_true, if_false,
    if_true] <;> omega

/-- The sign and the other bits are found again in a double. -/
theorem ofParts_inj {a b : Bool} {m n : Nat} (hm : m ≤ infinityBits) (hn : n ≤ infinityBits)
    (h : ofParts a m = ofParts b n) : a = b ∧ m = n := by
  have hinfinity : infinityBits < 2 ^ 63 := by decide
  have hbits := congrArg (fun x => x.bits.toNat) h
  rw [toNat_bits_ofParts hm, toNat_bits_ofParts hn] at hbits
  cases a <;> cases b <;> simp only [Bool.false_eq_true, if_false, if_true] at hbits <;>
    simp <;> omega

/-- The sign is read off the highest bit. -/
theorem isNegative_ofParts {b : Bool} {n : Nat} (hn : n ≤ infinityBits) :
    (ofParts b n).isNegative = b := by
  have hinfinity : infinityBits < 2 ^ 63 := by decide
  rw [isNegative, toNat_bits_ofParts hn, Nat.pow_eq]
  cases b <;> simp only [Bool.false_eq_true, if_false, if_true, decide_eq_true_eq,
    decide_eq_false_iff_not] <;> omega

/-- The exponent is read off the eleven bits after it. -/
theorem exponentField_ofParts {b : Bool} {n : Nat} (hn : n ≤ infinityBits) :
    (ofParts b n).exponentField = n / 2 ^ 52 := by
  have hinfinity : infinityBits = 2047 * 2 ^ 52 := rfl
  rw [exponentField, toNat_bits_ofParts hn, Nat.pow_eq, Nat.pow_eq]
  cases b <;> simp only [Bool.false_eq_true, if_false, if_true] <;> omega

/-! ### Rounding

A whole number with more than 53 binary digits loses the last ones, and one with fewer is shifted
up. In both cases its bits are the exponent and the mantissa side by side, and a mantissa that is
rounded up to one more digit carries into the exponent by itself. -/

theorem roundHalfEven_one (n : Nat) : roundHalfEven n 1 = n := by
  simp [roundHalfEven, Nat.mod_one]

/-- Rounding goes no further down than the quotient. -/
theorem div_le_roundHalfEven (num den : Nat) : num / den ≤ roundHalfEven num den := by
  rw [roundHalfEven]
  split
  · exact Nat.le_refl _
  · split
    · exact Nat.le_succ _
    · exact Nat.le_add_right _ _

/-- Rounding goes up by one at most. -/
theorem roundHalfEven_le (num den : Nat) : roundHalfEven num den ≤ num / den + 1 := by
  rw [roundHalfEven]
  split
  · exact Nat.le_succ _
  · split
    · exact Nat.le_refl _
    · exact Nat.add_le_add_left (Nat.le_of_lt_succ (Nat.mod_lt _ Nat.zero_lt_two)) _

/-- The greatest power of two in a whole number. -/
theorem log2Ratio_one {n : Nat} (hn : n ≠ 0) : log2Ratio n 1 = n.log2 := by
  have hlog : (Nat.log2 1 : Int) = 0 := by decide
  have hdown : (-(n.log2 : Int)).toNat = 0 := by omega
  have hup : (n.log2 : Int).toNat = n.log2 := by omega
  have hle : ¬ n < 2 ^ n.log2 := Nat.not_lt.2 (Nat.log2_self_le hn)
  simp only [log2Ratio, hlog, Int.sub_zero, hdown, hup, Nat.pow_eq, Nat.pow_zero, Nat.mul_one,
    Nat.one_mul, if_neg hle]

/-- The double nearest to a whole number has 52 binary digits after its first one. -/
theorem roundRatio_one {n : Nat} (hn : n ≠ 0) :
    roundRatio 53 (-1074) n 1 =
      (roundHalfEven (n * 2 ^ (52 - n.log2)) (2 ^ (n.log2 - 52)), (n.log2 : Int) - 52) := by
  have hshift : max ((n.log2 : Int) - ((53 : Nat) - 1)) (-1074) = n.log2 - 52 := by omega
  have hdown : ((n.log2 : Int) - 52).toNat = n.log2 - 52 := by omega
  have hup : (-((n.log2 : Int) - 52)).toNat = 52 - n.log2 := by omega
  simp only [roundRatio, log2Ratio_one hn, hshift, hdown, hup, Nat.pow_eq, Nat.one_mul]

/-- The bits of a magnitude, exponent and mantissa. -/
theorem magnitudeBits_eq {n : Nat} (hn : n ≠ 0) :
    magnitudeBits n =
      min ((n.log2 + 1022) * 2 ^ 52 + roundHalfEven (n * 2 ^ (52 - n.log2)) (2 ^ (n.log2 - 52)))
        infinityBits := by
  have hfield : ((n.log2 : Int) - 52 + 1074).toNat = n.log2 + 1022 := by omega
  rw [magnitudeBits, if_neg hn, roundRatio_one hn]
  simp only [hfield, Nat.pow_eq]

/-- A number of at most 53 digits keeps them all, shifted to the top of the mantissa. -/
theorem magnitudeBits_of_lt {n : Nat} (hn : n ≠ 0) (hlt : n < 2 ^ 53) :
    magnitudeBits n = (n.log2 + 1022) * 2 ^ 52 + n * 2 ^ (52 - n.log2) ∧
      2 ^ 52 ≤ n * 2 ^ (52 - n.log2) ∧ n * 2 ^ (52 - n.log2) < 2 ^ 53 := by
  have hlog : n.log2 < 53 := (Nat.log2_lt hn).2 hlt
  have hden : n.log2 - 52 = 0 := by omega
  have hpow : 2 ^ n.log2 * 2 ^ (52 - n.log2) = 2 ^ 52 := by
    rw [← Nat.pow_add]
    congr 1
    omega
  have hleast : 2 ^ 52 ≤ n * 2 ^ (52 - n.log2) := by
    rw [← hpow]
    exact Nat.mul_le_mul_right _ (Nat.log2_self_le hn)
  have hgreatest : n * 2 ^ (52 - n.log2) < 2 ^ 53 := by
    have hnext : n < 2 * 2 ^ n.log2 := by
      rw [← Nat.pow_succ']
      exact Nat.lt_log2_self
    have hmul := Nat.mul_lt_mul_of_pos_right hnext (Nat.two_pow_pos (52 - n.log2))
    rw [Nat.mul_assoc, hpow] at hmul
    omega
  refine ⟨?_, hleast, hgreatest⟩
  have hfinite : (n.log2 + 1022) * 2 ^ 52 + n * 2 ^ (52 - n.log2) ≤ infinityBits := by
    have hinfinity : infinityBits = 2047 * 2 ^ 52 := rfl
    omega
  rw [magnitudeBits_eq hn, hden, Nat.pow_zero, roundHalfEven_one, Nat.min_eq_left hfinite]

/-- The bits of a number with more than `k` digits, from the digits of a mantissa on. -/
theorem le_magnitudeBits {n k : Nat} (hleast : 52 ≤ k) (hgreatest : k ≤ 1024) (hle : 2 ^ k ≤ n) :
    (k + 1023) * 2 ^ 52 ≤ magnitudeBits n := by
  have hn : n ≠ 0 := Nat.ne_of_gt (Nat.lt_of_lt_of_le (Nat.two_pow_pos k) hle)
  have hlog : k ≤ n.log2 := (Nat.le_log2 hn).2 hle
  have hnum : 52 - n.log2 = 0 := by omega
  have hmantissa : 2 ^ 52 ≤ n / 2 ^ (n.log2 - 52) := by
    rw [Nat.le_div_iff_mul_le (Nat.two_pow_pos _), ← Nat.pow_add]
    have hexponent : 52 + (n.log2 - 52) = n.log2 := by omega
    rw [hexponent]
    exact Nat.log2_self_le hn
  have hrounded := Nat.le_trans hmantissa (div_le_roundHalfEven n (2 ^ (n.log2 - 52)))
  have hinfinite : (k + 1023) * 2 ^ 52 ≤ infinityBits :=
    Nat.mul_le_mul_right _ (Nat.add_le_add_right hgreatest 1023)
  rw [magnitudeBits_eq hn, hnum, Nat.pow_zero, Nat.mul_one]
  refine Nat.le_min.2 ⟨?_, hinfinite⟩
  calc (k + 1023) * 2 ^ 52 ≤ (n.log2 + 1023) * 2 ^ 52 :=
        Nat.mul_le_mul_right _ (Nat.add_le_add_right hlog 1023)
    _ = (n.log2 + 1022) * 2 ^ 52 + 2 ^ 52 := Nat.succ_mul _ _
    _ ≤ _ := Nat.add_le_add_left hrounded _

/-- No number of at most 64 digits is rounded to infinity. -/
theorem magnitudeBits_lt {n : Nat} (hlt : n < 2 ^ 64) : magnitudeBits n < infinityBits := by
  have hinfinity : infinityBits = 2047 * 2 ^ 52 := rfl
  -- up to 53 digits nothing is rounded, and beyond that the exponent is at most 63
  rcases Nat.lt_or_ge n (2 ^ 53) with hsmall | hlarge
  · by_cases hn : n = 0
    · subst hn
      decide
    · obtain ⟨hbits, -, hmantissa⟩ := magnitudeBits_of_lt hn hsmall
      have hlog : n.log2 < 53 := (Nat.log2_lt hn).2 hsmall
      omega
  · have hn : n ≠ 0 := by omega
    have hlog : n.log2 < 64 := (Nat.log2_lt hn).2 hlt
    have hlog' : 53 ≤ n.log2 := (Nat.le_log2 hn).2 hlarge
    have hnum : 52 - n.log2 = 0 := by omega
    have hmantissa : n / 2 ^ (n.log2 - 52) < 2 ^ 53 := by
      rw [Nat.div_lt_iff_lt_mul (Nat.two_pow_pos _), ← Nat.pow_add]
      have hexponent : 53 + (n.log2 - 52) = n.log2 + 1 := by omega
      rw [hexponent]
      exact Nat.lt_log2_self
    have hrounded := roundHalfEven_le n (2 ^ (n.log2 - 52))
    rw [magnitudeBits_eq hn, hnum, Nat.pow_zero, Nat.mul_one]
    omega

/-- Only zero has no bits at all. -/
theorem magnitudeBits_pos {n : Nat} (hn : n ≠ 0) : 0 < magnitudeBits n := by
  rcases Nat.lt_or_ge n (2 ^ 53) with hlt | hge
  · obtain ⟨hbits, hleast, -⟩ := magnitudeBits_of_lt hn hlt
    omega
  · have hbits := le_magnitudeBits (by decide) (by decide) hge
    omega

/-- No other number is rounded to the double of a number of at most 53 digits. -/
theorem eq_of_magnitudeBits_eq {m n : Nat} (hm : m < 2 ^ 53)
    (h : magnitudeBits m = magnitudeBits n) : m = n := by
  by_cases hm₀ : m = 0
  · subst hm₀
    by_cases hn₀ : n = 0
    · exact hn₀.symm
    · have hpos := magnitudeBits_pos hn₀
      have hzero : magnitudeBits 0 = 0 := rfl
      omega
  obtain ⟨hbits, hleast, hgreatest⟩ := magnitudeBits_of_lt hm₀ hm
  have hlog : m.log2 < 53 := (Nat.log2_lt hm₀).2 hm
  rcases Nat.lt_or_ge n (2 ^ 53) with hn | hn
  · have hn₀ : n ≠ 0 := by
      rintro rfl
      have hzero : magnitudeBits 0 = 0 := rfl
      omega
    -- the mantissas have as many digits, so the exponents are the same
    obtain ⟨hbits', hleast', hgreatest'⟩ := magnitudeBits_of_lt hn₀ hn
    have hlogs : m.log2 = n.log2 := by omega
    have hmantissa : m * 2 ^ (52 - m.log2) = n * 2 ^ (52 - n.log2) := by omega
    rw [hlogs] at hmantissa
    exact Nat.eq_of_mul_eq_mul_right (Nat.two_pow_pos _) hmantissa
  · have hbeyond := le_magnitudeBits (by decide) (by decide) hn
    omega

/-- Different integers of which one has at most 53 digits are different doubles. -/
theorem eq_of_ofInt_eq {i j : Int} (hi : i.natAbs < 2 ^ 53) (h : ofInt i = ofInt j) : i = j := by
  rw [ofInt_eq, ofInt_eq] at h
  obtain ⟨hsign, hmagnitude⟩ := ofParts_inj (magnitudeBits_le _) (magnitudeBits_le _) h
  have habs := eq_of_magnitudeBits_eq hi hmagnitude
  rw [decide_eq_decide] at hsign
  omega

/-! ### Words of 64 bits

No word is too large for a double, though many are rounded. -/

/-- A whole number of at most 64 digits is rounded to a finite double. -/
theorem isFinite_ofInt {i : Int} (h : i.natAbs < 2 ^ 64) : (ofInt i).isFinite = true := by
  have hlt := magnitudeBits_lt h
  have hinfinity : infinityBits = 2047 * 2 ^ 52 := rfl
  rw [ofInt_eq, isFinite, exponentField_ofParts (Nat.le_of_lt hlt), bne_iff_ne]
  omega

end TenantGate.Binary64
