import TenantGate.Coercion
import TenantGate.Proofs.Json.Number
import TenantGate.Proofs.Text
/-!
# Coercing to integers

A number is coerced to the integer part of its exact value, and a text to the integer of which it is
a numeral; both are refused if that integer is none of the signed word (`coerceTo_int`). Numbers are
compared as doubles, with the doubles of the least and the greatest word. The second of them is
`2 ^ 63`, and between the first and the next smaller one no double lies, so the comparison is exact
(`fitsWord_iff`).
-/

namespace TenantGate

open Number Sql

namespace Coercion

/-- The comparison with the two limits tells whether the integer part is a word. -/
theorem fitsWord_iff {x : Binary64} :
    fitsWord x = true ↔
      x.isFinite = true ∧ -2 ^ 63 ≤ towardZero x.toRat ∧ towardZero x.toRat < 2 ^ 63 := by
  have hgreatest : towardZero x.toRat < 2 ^ 63 ↔ x.toRat < (2 ^ 63 : ℤ) :=
    towardZero_lt_iff (by decide)
  have hleast : -2 ^ 63 ≤ towardZero x.toRat ↔ ((-2 ^ 63 : ℤ) : ℚ) ≤ x.toRat := by
    rw [le_towardZero_iff (by decide)]
    constructor
    · intro hlt
      by_contra hbelow
      rw [not_le] at hbelow
      -- so far from zero the double is whole, and no whole number lies in between
      have habs : 2 ^ 53 ≤ |x.toRat| := by
        rw [abs_of_neg (hbelow.trans (by norm_num))]
        push_cast at hbelow
        linarith
      obtain ⟨i, hi⟩ := Binary64.exists_int_of_le_abs habs
      rw [hi] at hlt hbelow
      have hlt : -2 ^ 63 - 1 < i := by exact_mod_cast hlt
      have hbelow : i < -2 ^ 63 := by exact_mod_cast hbelow
      omega
    · intro hle
      exact lt_of_lt_of_le (by norm_num) hle
  rw [fitsWord, Bool.and_eq_true, Bool.and_eq_true, Binary64.le_iff, Binary64.lt_iff,
    Binary64.toRat_ofInt_least, Binary64.toRat_ofInt_greatest, hgreatest, hleast, and_assoc]

/-- The integer of a number is the integer part of its exact value. -/
theorem intOfNumber_eq_some_iff {n : JsonNumber} (hn : n.IsProper) {w : Int64} :
    intOfNumber n = some w ↔ w.toInt = towardZero n.toRat := by
  have hdouble {x : Binary64} (hx : x.isFinite = true) :
      (if fitsWord x then some (Int64.ofInt x.truncate) else none) = some w ↔
        w.toInt = towardZero x.toRat := by
    rw [Binary64.truncate_eq, ← toInt64?_eq_some_iff, toInt64?]
    have hiff : fitsWord x = true ↔ fitsInt64 (towardZero x.toRat) = true := by
      rw [fitsWord_iff, fitsInt64_iff, and_iff_right hx]
    simp only [hiff]
  cases n with
  | double x => exact hdouble hn
  | integer i =>
    rw [intOfNumber, JsonNumber.toInt64?, JsonNumber.toRat, towardZero_intCast]
    split
    next v hv => rw [← toInt64?_eq_some_iff, hv]
    next hnone =>
      have hlarge : 2 ^ 63 ≤ i := by
        by_contra hlt
        have hfits : fitsInt64 i = true := fitsInt64_iff.2 ⟨hn.1, not_le.1 hlt⟩
        rw [toInt64?, if_pos hfits] at hnone
        cases hnone
      have hrefused : ¬ fitsWord (.ofInt i) = true := by
        rw [fitsWord_iff, towardZero_lt_iff (by decide), not_and, not_and, not_lt]
        exact fun _ _ => Binary64.le_toRat_ofInt hlarge
      rw [JsonNumber.toBinary64, if_neg hrefused]
      have hword := w.toInt_lt
      simp only [reduceCtorEq, false_iff]
      omega

/-! ### Acceptance

From the comparison to what is accepted and what is told of the rest. -/

theorem coerceTo_int_eq {v : Json} (hv : v.isNull = false) : coerceTo .int v = toInt v := by
  rw [coerceTo, hv, if_neg Bool.false_ne_true]

/-- There is one way to refuse an integer. -/
theorem eq_notInteger_of_toInt {v : Json} {cause : CoercionFailure} (h : toInt v = .error cause) :
    cause = .notInteger := by
  unfold toInt at h
  dsimp only at h
  split at h
  · split at h <;> cases h
    rfl
  · split at h
    · cases h
    · split at h <;> cases h
      rfl
  · cases h
    rfl

/-- What is refused is said not to be an integer. -/
theorem toInt_eq_error_iff {v : Json} {cause : CoercionFailure} :
    toInt v = .error cause ↔ cause = .notInteger ∧ ∀ w, toInt v ≠ .ok w := by
  cases hv : toInt v with
  | ok w => simp
  | error other =>
    obtain rfl := eq_notInteger_of_toInt hv
    simp [eq_comm]

/-- A number is accepted as the word of its integer part. -/
theorem toInt_number_eq_ok_iff {n : JsonNumber} (hn : n.IsProper) {v : Value} :
    toInt (.number n) = .ok v ↔ ∃ w : Int64, v = .int w ∧ w.toInt = towardZero n.toRat := by
  simp only [← intOfNumber_eq_some_iff hn]
  rw [toInt]
  split
  next w hw => simp [hw, eq_comm]
  next hw => simp [hw]

/-- A text is accepted if it is blank, or a numeral of a word. -/
theorem toInt_string_eq_ok_iff {s : String} {v : Value} :
    toInt (.string s) = .ok v ↔
      Text.IsBlankText s.toList ∧ v = .null .int ∨
        ∃ w : Int64, v = .int w ∧ IsNumeral (Text.trim s).toList w.toInt := by
  simp only [← readInt64?_eq_some_iff, ← Text.trim_eq_empty_iff, toInt]
  split
  next hblank =>
    have hnone : readInt64? "" = none := rfl
    simp [hblank, hnone, eq_comm]
  next hne =>
    split
    next w hw => simp [hne, hw, eq_comm]
    next hw => simp [hne, hw]

end Coercion

/-- No integer is wrapped, saturated or rounded. A JSON number is coerced to the word of the integer
part of its exact value; a text of blanks is no value, and any other text is coerced to the word of
which it is, trimmed, a numeral. What no word stands for is refused. -/
theorem coerceTo_int :
    (∀ n : JsonNumber, n.IsProper →
      (∀ v, coerceTo .int (.number n) = .ok v ↔
        ∃ w : Int64, v = .int w ∧ w.toInt = towardZero n.toRat) ∧
      ∀ cause, coerceTo .int (.number n) = .error cause ↔
        cause = .notInteger ∧ ¬ (-2 ^ 63 ≤ towardZero n.toRat ∧ towardZero n.toRat < 2 ^ 63)) ∧
    (∀ s : String,
      (∀ v, coerceTo .int (.string s) = .ok v ↔
        Text.IsBlankText s.toList ∧ v = .null .int ∨
          ∃ w : Int64, v = .int w ∧ IsNumeral (Text.trim s).toList w.toInt) ∧
      ∀ cause, coerceTo .int (.string s) = .error cause ↔
        cause = .notInteger ∧ ¬ Text.IsBlankText s.toList ∧
          ¬ ∃ i, IsNumeral (Text.trim s).toList i ∧ -2 ^ 63 ≤ i ∧ i < 2 ^ 63) ∧
    CoercionFailure.notInteger.message = "must be an integer" := by
  have hnumber (n : JsonNumber) : coerceTo .int (.number n) = Coercion.toInt (.number n) :=
    Coercion.coerceTo_int_eq rfl
  have hstring (s : String) : coerceTo .int (.string s) = Coercion.toInt (.string s) :=
    Coercion.coerceTo_int_eq rfl
  simp only [hnumber, hstring]
  refine ⟨fun n hn => ⟨fun v => Coercion.toInt_number_eq_ok_iff hn, fun cause => ?_⟩,
    fun s => ⟨fun v => Coercion.toInt_string_eq_ok_iff, fun cause => ?_⟩, rfl⟩
  · rw [Coercion.toInt_eq_error_iff, ← exists_toInt_iff]
    simp only [ne_eq, Coercion.toInt_number_eq_ok_iff hn]
    refine and_congr_right fun _ => ⟨?_, ?_⟩
    · rintro hnone ⟨w, hw⟩
      exact hnone _ ⟨w, rfl, hw⟩
    · rintro hnone v ⟨w, -, hw⟩
      exact hnone ⟨w, hw⟩
  · rw [Coercion.toInt_eq_error_iff]
    simp only [ne_eq, Coercion.toInt_string_eq_ok_iff, ← exists_toInt_iff]
    refine and_congr_right fun _ => ⟨?_, ?_⟩
    · intro hnone
      refine ⟨fun hblank => hnone _ (.inl ⟨hblank, rfl⟩), ?_⟩
      rintro ⟨_, hnumeral, w, rfl⟩
      exact hnone _ (.inr ⟨w, rfl, hnumeral⟩)
    · rintro ⟨hblank, hnone⟩ v (⟨h, -⟩ | ⟨w, -, hnumeral⟩)
      · exact hblank h
      · exact hnone ⟨_, hnumeral, w, rfl⟩

/-- The two doubles next to each limit of the word, and the integer after the greatest word. -/
theorem coerceTo_int_limits :
    let last : JsonNumber := .double ⟨0x43DFFFFFFFFFFFFF⟩
    let beyond : JsonNumber := .double ⟨0x43E0000000000000⟩
    let least : JsonNumber := .double ⟨0xC3E0000000000000⟩
    let before : JsonNumber := .double ⟨0xC3E0000000000001⟩
    let unsigned : JsonNumber := .integer 9223372036854775808
    (last.IsProper ∧ coerceTo .int (.number last) = .ok (.int 9223372036854774784) ∧
      towardZero last.toRat = 9223372036854774784) ∧
    (least.IsProper ∧ coerceTo .int (.number least) = .ok (.int (-9223372036854775808)) ∧
      towardZero least.toRat = -9223372036854775808) ∧
    ∀ n ∈ [beyond, before, unsigned], n.IsProper ∧
      coerceTo .int (.number n) = .error .notInteger ∧
      ¬ (-2 ^ 63 ≤ towardZero n.toRat ∧ towardZero n.toRat < 2 ^ 63) := by
  intro last beyond least before unsigned
  obtain ⟨hnumber, -, -⟩ := coerceTo_int
  have hvalue {n : JsonNumber} {w : Int64} (hn : n.IsProper)
      (h : coerceTo .int (.number n) = .ok (.int w)) : towardZero n.toRat = w.toInt := by
    obtain ⟨_, ⟨⟩, hw⟩ := ((hnumber n hn).1 _).1 h
    exact hw.symm
  have hlast : last.IsProper := by decide +kernel
  have hleast : least.IsProper := by decide +kernel
  have haccepted : coerceTo .int (.number last) = .ok (.int 9223372036854774784) := by
    decide +kernel
  have haccepted' : coerceTo .int (.number least) = .ok (.int (-9223372036854775808)) := by
    decide +kernel
  refine ⟨⟨hlast, haccepted, hvalue hlast haccepted⟩,
    ⟨hleast, haccepted', hvalue hleast haccepted'⟩, ?_⟩
  have hrefused {n : JsonNumber} (hn : n.IsProper)
      (h : coerceTo .int (.number n) = .error .notInteger) :=
    (((hnumber n hn).2 _).1 h).2
  have hproper : ∀ n ∈ [beyond, before, unsigned], n.IsProper ∧
      coerceTo .int (.number n) = .error .notInteger := by
    refine List.forall_mem_cons.2 ⟨?_, List.forall_mem_cons.2 ⟨?_, List.forall_mem_singleton.2 ?_⟩⟩
    · exact ⟨by decide +kernel, by decide +kernel⟩
    · exact ⟨by decide +kernel, by decide +kernel⟩
    · exact ⟨by decide +kernel, by decide +kernel⟩
  intro n hn
  obtain ⟨hn, h⟩ := hproper n hn
  exact ⟨hn, h, hrefused hn h⟩

end TenantGate
