import Mathlib.Algebra.Group.Int.Defs
import Mathlib.Data.List.Induction
import TenantGate.Number.Numeral
/-!
# Numerals

A number is found again in its decimal digits, with or without a sign, and a signed word in the text
that is written for it. What is read is exactly a numeral (`readInt?_eq_some_iff`), as the integer
that its digits denote.
-/

namespace TenantGate.Number

theorem isDigit_of_mem_natChars {n : Nat} {c : Char} (h : c ∈ natChars n) : c.isDigit = true :=
  Nat.isDigit_of_mem_toDigits (by decide) (by decide) h

/-- A natural number is read from its numeral. -/
theorem readNat?_natChars (n : Nat) : readNat? (natChars n) = some n := by
  have hdigits : (natChars n).all Char.isDigit = true :=
    List.all_eq_true.2 fun _ h => isDigit_of_mem_natChars h
  have hne : natChars n ≠ [] := Nat.toDigits_ne_nil
  rw [readNat?, if_pos (by simp [hdigits, hne])]
  exact congrArg some (Nat.ofDigitChars_toDigits (by decide) (by decide))

/-- Digits without a sign are a number. -/
theorem readInt?_natChars (n : Nat) : readInt? (natChars n) = some (n : Int) := by
  have hsign {c : Char} (hc : c.isDigit = false) : ∀ cs, natChars n ≠ c :: cs := by
    intro cs hn
    have hdigit := isDigit_of_mem_natChars (n := n) (c := c) (by simp [hn])
    rw [hdigit] at hc
    exact Bool.noConfusion hc
  rw [readInt?.eq_3 _ (hsign (by decide)) (hsign (by decide)), readNat?_natChars]
  rfl

/-- An integer is read from its numeral. -/
theorem readInt?_intChars (i : Int) : readInt? (intChars i) = some i := by
  rw [intChars]
  split
  next h =>
    rw [readInt?, readNat?_natChars]
    show some (-(i.natAbs : Int)) = some i
    rw [Int.ofNat_natAbs_of_nonpos (Int.le_of_lt h), Int.neg_neg]
  next h => rw [readInt?_natChars, Int.natAbs_of_nonneg (Int.not_lt.1 h)]

/-! ### Words

A word of 64 bits stands for an integer in its range, and each such integer has one word. -/

/-- The range of a signed word. -/
theorem fitsInt64_iff {i : Int} : fitsInt64 i = true ↔ -2 ^ 63 ≤ i ∧ i < 2 ^ 63 := by
  have hleast : int64Least = -2 ^ 63 := rfl
  have hgreatest : int64Greatest = 2 ^ 63 - 1 := rfl
  rw [fitsInt64, Bool.and_eq_true, decide_eq_true_eq, decide_eq_true_eq, hleast, hgreatest,
    Int.le_sub_one_iff]

/-- A word stands for the integer that it is made of, if that fits. -/
theorem toInt_ofInt_of_fits {i : Int} (h : fitsInt64 i = true) : (Int64.ofInt i).toInt = i :=
  Int64.toInt_ofInt_of_le (fitsInt64_iff.1 h).1 (fitsInt64_iff.1 h).2

theorem fitsInt64_toInt (w : Int64) : fitsInt64 w.toInt = true :=
  fitsInt64_iff.2 ⟨w.le_toInt, w.toInt_lt⟩

/-- The word that an integer is read as is the one that stands for it. -/
theorem toInt64?_eq_some_iff {i : Int} {w : Int64} : toInt64? i = some w ↔ w.toInt = i := by
  rw [toInt64?, Option.ite_none_right_eq_some, Option.some.injEq]
  constructor
  · rintro ⟨hfits, rfl⟩
    exact toInt_ofInt_of_fits hfits
  · rintro rfl
    exact ⟨fitsInt64_toInt w, Int64.ofInt_toInt w⟩

/-- There is a word for each integer in the range and for no other one. -/
theorem exists_toInt_iff {i : Int} : (∃ w : Int64, w.toInt = i) ↔ -2 ^ 63 ≤ i ∧ i < 2 ^ 63 := by
  rw [← fitsInt64_iff]
  constructor
  · rintro ⟨w, rfl⟩
    exact fitsInt64_toInt w
  · intro h
    exact ⟨_, toInt_ofInt_of_fits h⟩

theorem readInt64?_intText (i : Int64) : readInt64? (intText i.toInt) = some i := by
  rw [readInt64?, intText, String.toList_ofList, readInt?_intChars, Option.bind_some,
    toInt64?_eq_some_iff]

/-- No numeral is empty. -/
theorem intChars_ne_nil {i : Int} : intChars i ≠ [] := by
  intro h
  have hread := readInt?_intChars i
  rw [h] at hread
  cases hread

/-- A numeral holds digits, and perhaps a minus sign. -/
theorem of_mem_intChars {i : Int} {c : Char} (h : c ∈ intChars i) : c.isDigit = true ∨ c = '-' := by
  rw [intChars] at h
  split at h
  · obtain rfl | h := List.mem_cons.1 h
    · exact .inr rfl
    · exact .inl (isDigit_of_mem_natChars h)
  · exact .inl (isDigit_of_mem_natChars h)

/-! ### What is read

What a numeral is, said without the reader: `IsDigits` counts a further digit as ones and all before
it as tens, and a sign may stand in front. The reader takes just these. -/

/-- A run of digits and the number that it denotes: one more digit counts ones, and what stands
before it tens. -/
inductive IsDigits : List Char → Nat → Prop where
  | one {d : Nat} (hd : d < 10) : IsDigits [Nat.digitChar d] d
  | concat {cs : List Char} {n d : Nat} (h : IsDigits cs n) (hd : d < 10) :
      IsDigits (cs ++ [Nat.digitChar d]) (10 * n + d)

/-- A numeral and the integer that it denotes: an optional sign and digits. -/
inductive IsNumeral : List Char → Int → Prop where
  | plain {cs : List Char} {n : Nat} (h : IsDigits cs n) : IsNumeral cs n
  | plus {cs : List Char} {n : Nat} (h : IsDigits cs n) : IsNumeral ('+' :: cs) n
  | minus {cs : List Char} {n : Nat} (h : IsDigits cs n) : IsNumeral ('-' :: cs) (-n)

/-- A digit is the character of the number that it denotes. -/
theorem exists_digitChar {c : Char} (hc : c.isDigit = true) : ∃ d < 10, c = Nat.digitChar d := by
  obtain ⟨hleast, hgreatest⟩ : 48 ≤ c.toNat ∧ c.toNat ≤ 57 := Char.isDigit_iff_toNat.1 hc
  refine ⟨c.toNat - 48, by omega, Char.toNat_inj.1 ?_⟩
  rw [Nat.toNat_digitChar_of_lt_ten (by omega)]
  omega

/-- One more digit, as the computation by places has it. -/
theorem ofDigitChars_concat (cs : List Char) {d : Nat} (hd : d < 10) :
    Nat.ofDigitChars 10 (cs ++ [Nat.digitChar d]) 0 = 10 * Nat.ofDigitChars 10 cs 0 + d := by
  rw [Nat.ofDigitChars_append, Nat.ofDigitChars_cons, Nat.toNat_digitChar_of_lt_ten hd]
  show 10 * Nat.ofDigitChars 10 cs 0 + (48 + d - 48) = _
  omega

/-- Digits are not none, are digits, and are computed by their places as what they denote. -/
theorem IsDigits.spec {cs : List Char} {n : Nat} (h : IsDigits cs n) :
    cs ≠ [] ∧ (∀ c ∈ cs, c.isDigit = true) ∧ Nat.ofDigitChars 10 cs 0 = n := by
  have hdigit {d : Nat} (hd : d < 10) : (Nat.digitChar d).isDigit = true := by
    rw [Nat.isDigit_digitChar]
    exact decide_eq_true hd
  induction h with
  | one hd =>
    refine ⟨List.cons_ne_nil _ _, List.forall_mem_singleton.2 (hdigit hd), ?_⟩
    rw [← List.nil_append [Nat.digitChar _], ofDigitChars_concat [] hd]
    exact Nat.zero_add _
  | concat _ hd ih =>
    obtain ⟨-, hcs, hn⟩ := ih
    refine ⟨List.append_ne_nil_of_right_ne_nil _ (List.cons_ne_nil _ _), ?_, ?_⟩
    · exact List.forall_mem_append.2 ⟨hcs, List.forall_mem_singleton.2 (hdigit hd)⟩
    · rw [ofDigitChars_concat _ hd, hn]

/-- A run of digits denotes the number that it is read as. -/
theorem isDigits_of_digits {cs : List Char} (hne : cs ≠ []) (h : ∀ c ∈ cs, c.isDigit = true) :
    IsDigits cs (Nat.ofDigitChars 10 cs 0) := by
  -- The induction is on the digits from their end, where the ones are.
  induction cs using List.reverseRecOn with
  | nil => exact absurd rfl hne
  | append_singleton cs c ih =>
    obtain ⟨hcs, hc⟩ := List.forall_mem_append.1 h
    obtain ⟨d, hd, rfl⟩ := exists_digitChar (hc c List.mem_cons_self)
    rw [ofDigitChars_concat cs hd]
    by_cases hnil : cs = []
    · subst hnil
      show IsDigits [Nat.digitChar d] (0 + d)
      rw [Nat.zero_add]
      exact .one hd
    · exact (ih hnil hcs).concat hd

/-- Exactly the digits are read, as what they denote. -/
theorem readNat?_eq_some_iff {cs : List Char} {n : Nat} : readNat? cs = some n ↔ IsDigits cs n := by
  rw [readNat?, Option.ite_none_right_eq_some, Option.some.injEq]
  simp only [Bool.and_eq_true, Bool.not_eq_true', List.isEmpty_eq_false_iff, List.all_eq_true]
  constructor
  · rintro ⟨⟨hne, hcs⟩, rfl⟩
    exact isDigits_of_digits hne hcs
  · intro h
    obtain ⟨hne, hcs, hn⟩ := h.spec
    exact ⟨⟨hne, hcs⟩, hn⟩

/-- Exactly the numerals are read, as what they denote. -/
theorem readInt?_eq_some_iff {cs : List Char} {i : Int} :
    readInt? cs = some i ↔ IsNumeral cs i := by
  constructor
  · intro h
    unfold readInt? at h
    split at h
    all_goals
      obtain ⟨_, hread, rfl⟩ := Option.map_eq_some_iff.1 h
      obtain ⟨n, hn, ⟨⟩⟩ := Option.bind_eq_some_iff.1 hread
      rw [readNat?_eq_some_iff] at hn
    · exact .minus hn
    · exact .plus hn
    · exact .plain hn
  -- without a sign, no branch for a sign may take the first digit
  · rintro (h | h | h)
    · have hdigits := h.spec.2.1
      rw [readInt?.eq_3, readNat?_eq_some_iff.2 h]
      · rfl
      all_goals
        rintro cs rfl
        cases hdigits _ List.mem_cons_self
    · rw [readInt?, readNat?_eq_some_iff.2 h]
      rfl
    · rw [readInt?, readNat?_eq_some_iff.2 h]
      rfl

/-- A text is read as a word if it is the numeral of the integer that the word stands for. -/
theorem readInt64?_eq_some_iff {s : String} {w : Int64} :
    readInt64? s = some w ↔ IsNumeral s.toList w.toInt := by
  rw [readInt64?, Option.bind_eq_some_iff]
  constructor
  · rintro ⟨i, hi, hw⟩
    rw [toInt64?_eq_some_iff.1 hw]
    exact readInt?_eq_some_iff.1 hi
  · intro h
    exact ⟨_, readInt?_eq_some_iff.2 h, toInt64?_eq_some_iff.2 rfl⟩

end TenantGate.Number
