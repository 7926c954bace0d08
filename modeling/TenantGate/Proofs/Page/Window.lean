import TenantGate.Page.Window
/-!
# Windows in whole numbers

The numbers of a window are words of 64 bits, and `Window.ofRequest` keeps them in range: the page
size lies between 1 and 200, one more than it is not too large either, and an offset that would not
fit is the greatest word. So they can be read as the whole numbers that they stand for.
-/

namespace TenantGate

open Number

theorem int64Greatest_eq : int64Greatest = 9223372036854775807 := rfl

theorem int64Least_eq : int64Least = -9223372036854775808 := rfl

/-- The greater of two words stands for the greater integer. -/
theorem toInt_max (x y : Int64) : (max x y).toInt = max x.toInt y.toInt := by
  show (if x ≤ y then y else x).toInt = _
  split
  · next h =>
    rw [Int64.le_iff_toInt_le] at h
    omega
  · next h =>
    rw [Int64.le_iff_toInt_le] at h
    omega

/-- The smaller of two words stands for the smaller integer. -/
theorem toInt_min (x y : Int64) : (min x y).toInt = min x.toInt y.toInt := by
  show (if x ≤ y then x else y).toInt = _
  split
  · next h =>
    rw [Int64.le_iff_toInt_le] at h
    omega
  · next h =>
    rw [Int64.le_iff_toInt_le] at h
    omega

/-- A natural number within the word stands for itself. -/
theorem toInt_ofNat_le {n : Nat} (h : (n : Int) ≤ int64Greatest) : (Int64.ofNat n).toInt = n := by
  rw [int64Greatest_eq] at h
  exact Int64.toInt_ofNat_of_lt (by omega)

namespace Window

/-- What is beyond the word is its nearest limit. -/
theorem toInt_saturate (i : Int) :
    (saturate i).toInt = max int64Least (min int64Greatest i) := by
  unfold saturate
  rw [int64Least_eq, int64Greatest_eq]
  split
  · rw [Int64.toInt_ofInt_of_le (by decide) (by decide)]
    omega
  · split
    · rw [Int64.toInt_ofInt_of_le (by decide) (by decide)]
      omega
    · rw [Int64.toInt_ofInt_of_le (by omega) (by omega)]
      omega

/-- Every page size lies between one and the greatest one. -/
theorem toInt_perPage_bounds (page perPage : Option Int64) (default : Int64) :
    1 ≤ (ofRequest page perPage default).perPage.toInt ∧
      (ofRequest page perPage default).perPage.toInt ≤ greatestSize.toInt := by
  show 1 ≤ (max 1 (min greatestSize _)).toInt ∧ (max 1 (min greatestSize _)).toInt ≤ _
  rw [toInt_max, toInt_min, show greatestSize.toInt = 200 from rfl, show Int64.toInt 1 = 1 from rfl]
  omega

/-- One row more than the page holds is asked for. -/
theorem toInt_limit (page perPage : Option Int64) (default : Int64) :
    (ofRequest page perPage default).limit.toInt =
      (ofRequest page perPage default).perPage.toInt + 1 := by
  obtain ⟨hleast, hgreatest⟩ := toInt_perPage_bounds page perPage default
  rw [show greatestSize.toInt = 200 from rfl] at hgreatest
  show ((ofRequest page perPage default).perPage + 1).toInt = _
  rw [Int64.toInt_add, show Int64.toInt 1 = 1 from rfl]
  exact Int.bmod_eq_of_le (by omega) (by omega)

/-- The rows before a page are those of full pages, or as many as the word can say. -/
theorem toInt_offset {p : Int64} (hp : 1 ≤ p.toInt) (perPage : Option Int64) (default : Int64) :
    (ofRequest (some p) perPage default).offset.toInt =
      min int64Greatest
        ((p.toInt - 1) * (ofRequest (some p) perPage default).perPage.toInt) := by
  have hpositive : 0 < p := by
    rw [Int64.lt_iff_toInt_lt, show Int64.toInt 0 = 0 from rfl]
    omega
  have hpage : ((some p).filter (0 < ·)).getD 1 = p := by simp [Option.filter, hpositive]
  have hoffset : (ofRequest (some p) perPage default).offset =
      saturate ((p.toInt - 1) * (ofRequest (some p) perPage default).perPage.toInt) := by
    simp only [ofRequest, hpage]
  obtain ⟨hleast, -⟩ := toInt_perPage_bounds (some p) perPage default
  have hnonneg : 0 ≤ (p.toInt - 1) * (ofRequest (some p) perPage default).perPage.toInt :=
    Int.mul_nonneg (by omega) (by omega)
  rw [hoffset, toInt_saturate, int64Least_eq, int64Greatest_eq]
  omega

end Window
end TenantGate
