import Mathlib.Data.List.TakeWhile
import TenantGate.Coercion
import TenantGate.Proofs.Number
import TenantGate.Proofs.Text
import TenantGate.Proofs.Text.Lower
/-!
# Coercing numerals

What the canonical numeral of an integer (`Number.intText`) is coerced to by each kind. As text and
as JSON it stays the text that it is, as an integer and as a double it is the number, as a truth
value only `0` and `1` are read, and no numeral is a point in time. All of these but the double
determine the integer (`eq_of_coerce_intText`).
-/

namespace TenantGate

open Number Sql

/-! ### The characters of a numeral

A canonical numeral is a minus sign or nothing, and then digits. So it has no blank, no letter, and
no second sign, which is all that the kinds ask of it. -/

namespace Number

/-- A natural number is written with at least one digit. -/
theorem natChars_cons (n : Nat) :
    ∃ c cs, natChars n = c :: cs ∧ c.isDigit = true ∧ ∀ d ∈ cs, d.isDigit = true := by
  have hne : natChars n ≠ [] := Nat.toDigits_ne_nil
  obtain ⟨c, cs, hcs⟩ := List.exists_cons_of_ne_nil hne
  have hdigits : ∀ d ∈ c :: cs, d.isDigit = true := fun d hd =>
    isDigit_of_mem_natChars (hcs ▸ hd)
  obtain ⟨hc, hrest⟩ := List.forall_mem_cons.1 hdigits
  exact ⟨c, cs, hcs, hc, hrest⟩

/-- A numeral has a digit or a minus sign first, and digits after it. -/
theorem intChars_cons (i : Int) :
    ∃ c cs, intChars i = c :: cs ∧ (c.isDigit = true ∨ c = '-') ∧ ∀ d ∈ cs, d.isDigit = true := by
  rw [intChars]
  split
  · exact ⟨'-', _, rfl, .inr rfl, fun d hd => isDigit_of_mem_natChars hd⟩
  · obtain ⟨c, cs, hcs, hc, hdigits⟩ := natChars_cons i.natAbs
    exact ⟨c, cs, hcs, .inl hc, hdigits⟩

/-- No character of a numeral is a blank. -/
theorem not_blank_of_mem_intChars {i : Int} {c : Char} (h : c ∈ intChars i) :
    Text.isBlank c = false := by
  rcases of_mem_intChars h with hc | rfl
  · exact Text.not_blank_of_isDigit hc
  · rfl

theorem trimStart_intChars (i : Int) : Text.trimStart (intChars i) = intChars i :=
  Text.trimStart_eq_self_of_head? fun _ hc => not_blank_of_mem_intChars (List.mem_of_head? hc)

/-- A numeral has nothing to be trimmed. -/
theorem trimChars_intChars (i : Int) : Text.trimChars (intChars i) = intChars i :=
  Text.trimChars_eq_self (trimStart_intChars i)
    (Text.trimEnd_eq_self_of_getLast? fun _ hc =>
      not_blank_of_mem_intChars (List.mem_of_getLast? hc))

@[simp] theorem toList_intText (i : Int) : (intText i).toList = intChars i := String.toList_ofList

@[simp] theorem trim_intText (i : Int) : Text.trim (intText i) = intText i := by
  rw [Text.trim, toList_intText, trimChars_intChars]
  rfl

/-- No numeral is empty. -/
theorem intText_ne_empty (i : Int) : intText i ≠ "" := by
  intro h
  have hchars := congrArg String.toList h
  rw [toList_intText] at hchars
  exact intChars_ne_nil hchars

/-- Different integers have different numerals. -/
theorem intChars_inj {i j : Int} : intChars i = intChars j ↔ i = j := by
  constructor
  · intro h
    have hread := readInt?_intChars i
    rw [h, readInt?_intChars] at hread
    exact (Option.some.inj hread).symm
  · rintro rfl
    rfl

theorem intText_inj {i j : Int} : intText i = intText j ↔ i = j := by
  rw [← intChars_inj, ← toList_intText, ← toList_intText, String.toList_inj]

/-- Digits and a minus sign have no lower case. -/
theorem lower_intText (i : Int) : Text.lower (intText i) = intText i := by
  have hlow : Text.lowerFrom [] (intChars i) = intChars i := by
    refine Text.lowerFrom_eq_self fun c hc => ?_
    rcases of_mem_intChars hc with hc | rfl
    · obtain ⟨hleast, hgreatest⟩ := Bool.and_eq_true_iff.1 hc
      have hnat : c.toNat ≤ 57 := UInt32.le_iff_toNat_le.1 (of_decide_eq_true hgreatest)
      refine ⟨by omega, ?_⟩
      rw [← Bool.not_eq_true, Text.isUpper_iff]
      omega
    · decide
  rw [Text.lower, toList_intText, hlow]
  rfl

end Number

/-! ### Numerals as integers

An integer that fits is the word that it is made into; one that does not is refused. -/

/-- A numeral that is taken as an integer fits the word, and is it. -/
theorem Coercion.toInt_intText {i : Int} {v : Value}
    (h : Coercion.toInt (.string (intText i)) = .ok v) :
    fitsInt64 i = true ∧ v = .int (Int64.ofInt i) := by
  simp only [toInt, trim_intText, intText_ne_empty, if_false, readInt64?, toList_intText,
    readInt?_intChars, Option.bind_some, toInt64?] at h
  split at h
  next w hw =>
    split at hw
    next hfits =>
      cases h
      cases hw
      exact ⟨hfits, rfl⟩
    next => cases hw
  next => cases h

/-- Words that different integers fit are different. -/
theorem Number.ofInt_inj_of_fits {i j : Int} (hi : fitsInt64 i = true) (hj : fitsInt64 j = true)
    (h : Int64.ofInt i = Int64.ofInt j) : i = j := by
  rw [← toInt_ofInt_of_fits hi, h, toInt_ofInt_of_fits hj]

/-! ### Numerals as doubles

A numeral has neither point nor exponent, so the decimal it is read as is the integer itself. -/

/-- Digits have no sign. -/
theorem Decimal.readSign_natChars (n : Nat) : readSign (natChars n) = (false, natChars n) := by
  obtain ⟨c, cs, hcs, hc, -⟩ := natChars_cons n
  rw [hcs]
  unfold readSign
  split
  next heq =>
    cases heq
    cases hc
  next heq =>
    cases heq
    cases hc
  next => rfl

/-- The sign of a numeral is that of its integer. -/
theorem Decimal.readSign_intChars (i : Int) :
    readSign (intChars i) = (decide (i < 0), natChars i.natAbs) := by
  rw [intChars]
  split
  next h => rw [decide_eq_true h, readSign]
  next h => rw [decide_eq_false h, readSign_natChars]

/-- A numeral is read as the decimal that it is. -/
theorem Decimal.read?_intText (i : Int) : read? (intText i) = some ⟨i < 0, i.natAbs, 0⟩ := by
  have hdigits : ∀ c ∈ natChars i.natAbs, c.isDigit = true := fun c hc =>
    isDigit_of_mem_natChars hc
  have hvalue : Nat.ofDigitChars 10 (natChars i.natAbs) 0 = i.natAbs :=
    Nat.ofDigitChars_toDigits (by decide) (by decide)
  have hne : (natChars i.natAbs).isEmpty = false :=
    List.isEmpty_eq_false_iff.2 Nat.toDigits_ne_nil
  rw [read?, toList_intText, readSign_intChars]
  simp [List.takeWhile_eq_self_iff.2 hdigits, List.dropWhile_eq_nil_iff.2 hdigits, hne, hvalue,
    readExponent?]

/-- Of whole numbers only those of hundreds of digits are not rounded at once: they are infinite. -/
theorem Decimal.toBinary64_int (i : Int) :
    toBinary64 ⟨i < 0, i.natAbs, 0⟩ = .ofInt i ∨
      toBinary64 ⟨i < 0, i.natAbs, 0⟩ = .ofParts (i < 0) Binary64.infinityBits := by
  have hlength : ¬ ((natChars i.natAbs).length + 0 : Int) < -330 := by omega
  rw [toBinary64, Binary64.ofInt]
  by_cases hzero : i.natAbs = 0
  · exact .inl (by simp only [hzero, if_true]; rfl)
  · by_cases hlarge : ((natChars i.natAbs).length + 0 : Int) > 310
    · exact .inr (by simp only [hzero, hlarge, if_true, if_false])
    · refine .inl ?_
      simp only [hzero, hlarge, hlength, if_false]
      simp

/-- A double that is nearest to a whole number and finite is the one that the number is rounded
to. -/
theorem Decimal.eq_ofInt_of_toFinite? {i : Int} {x : Binary64}
    (h : toFinite? ⟨i < 0, i.natAbs, 0⟩ = some x) : x = .ofInt i := by
  have hinfinite (b : Bool) : (Binary64.ofParts b Binary64.infinityBits).isFinite = false := by
    cases b <;> decide
  obtain ⟨hfinite, hx⟩ := Option.ite_none_right_eq_some.1 h
  rcases toBinary64_int i with hround | hround
  · rw [← Option.some.inj hx, hround]
  · rw [hround, hinfinite] at hfinite
    cases hfinite

/-- A numeral that is taken as a double is the double nearest to it. -/
theorem Coercion.toFloat_intText {i : Int} {v : Value}
    (h : Coercion.toFloat (.string (intText i)) = .ok v) : v = .float (.ofInt i) := by
  simp only [toFloat, trim_intText, intText_ne_empty, if_false, Decimal.read?_intText,
    Option.bind_some] at h
  split at h
  next x hx =>
    cases h
    rw [Decimal.eq_ofInt_of_toFinite? hx]
  next => cases h

/-! ### Numerals as truth values

Of the words for true and false, `1` and `0` are the only ones that look like a numeral. -/

/-- A word that a numeral can be: one of digits and minus signs. -/
def Coercion.looksNumeric (w : String) : Bool := w.toList.all fun c => c.isDigit || c == '-'

/-- A numeral looks like one. -/
theorem Coercion.looksNumeric_intText (i : Int) : looksNumeric (intText i) = true := by
  rw [looksNumeric, toList_intText, List.all_eq_true]
  intro c hc
  simpa using of_mem_intChars hc

/-- The only such word for true is `1`. -/
theorem Coercion.eq_one_of_trueWords {i : Int} (h : trueWords.contains (intText i) = true) :
    i = 1 := by
  have hwords : ∀ w ∈ trueWords, looksNumeric w = true → w = intText 1 := by decide
  exact intText_inj.1 (hwords _ (List.contains_iff_mem.1 h) (looksNumeric_intText i))

/-- The only such word for false is `0`. -/
theorem Coercion.eq_zero_of_falseWords {i : Int} (h : falseWords.contains (intText i) = true) :
    i = 0 := by
  have hwords : ∀ w ∈ falseWords, looksNumeric w = true → w = intText 0 := by decide
  exact intText_inj.1 (hwords _ (List.contains_iff_mem.1 h) (looksNumeric_intText i))

/-- A numeral that is taken as a truth value is `1` or `0`. -/
theorem Coercion.toBool_intText {i : Int} {v : Value}
    (h : Coercion.toBool (.string (intText i)) = .ok v) :
    i = 1 ∧ v = .bool true ∨ i = 0 ∧ v = .bool false := by
  simp only [toBool, trim_intText, lower_intText, intText_ne_empty, if_false] at h
  split at h
  next htrue =>
    cases h
    exact .inl ⟨eq_one_of_trueWords htrue, rfl⟩
  next =>
    split at h
    next hfalse =>
      cases h
      exact .inr ⟨eq_zero_of_falseWords hfalse, rfl⟩
    next => cases h

/-! ### Numerals as points in time

Every form of a time begins with a date, and a date has two hyphens in it. -/

namespace Timestamp

/-- A mark is not found among digits. -/
theorem expect_eq_none {c : Char} {ds : List Char} (hc : c.isDigit = false)
    (hds : ∀ d ∈ ds, d.isDigit = true) : expect c ds = none := by
  cases ds with
  | nil => rfl
  | cons d ds =>
    have hne : d ≠ c := by
      rintro rfl
      rw [hds d List.mem_cons_self] at hc
      cases hc
    rw [expect, if_neg hne]

/-- After a number at the beginning of digits only digits are left. -/
theorem isDigit_of_shortNumber {most n : Nat} {cs r : List Char}
    (hcs : ∀ d ∈ cs, d.isDigit = true) (h : shortNumber most cs = some (n, r)) :
    ∀ d ∈ r, d.isDigit = true := by
  have hsub : Text.trimStart cs <:+ cs := List.dropWhile_suffix _
  rw [shortNumber] at h
  obtain ⟨-, heq⟩ := Option.ite_none_left_eq_some.1 h
  cases heq
  exact fun d hd => hcs d (hsub.subset (List.mem_of_mem_drop hd))

/-- After a year at the beginning of a numeral only digits are left. -/
theorem isDigit_of_signedYear {i year : Int} {r : List Char}
    (h : signedYear (intChars i) = some (year, r)) : ∀ d ∈ r, d.isDigit = true := by
  obtain ⟨c, cs, hcs, hc, hdigits⟩ := intChars_cons i
  have hstart := trimStart_intChars i
  rw [hcs] at h hstart
  have hdigit : c ≠ '+' := by
    rintro rfl
    rcases hc with hc | hc <;> cases hc
  unfold signedYear at h
  rw [hstart] at h
  dsimp only at h
  split at h
  next heq =>
    -- all that follows the sign is taken into the year
    cases heq
    obtain ⟨⟨n, rest⟩, hsigned, heq⟩ := Option.map_eq_some_iff.1 h
    cases heq
    obtain ⟨-, heq⟩ := Option.ite_none_left_eq_some.1 hsigned
    cases heq
    exact fun d hd => hdigits d ((List.dropWhile_suffix _).subset hd)
  next heq =>
    cases heq
    exact absurd rfl hdigit
  next hminus hplus =>
    obtain ⟨⟨n, rest⟩, hnumber, heq⟩ := Option.map_eq_some_iff.1 h
    cases heq
    refine isDigit_of_shortNumber (List.forall_mem_cons.2 ⟨?_, hdigits⟩) hnumber
    rcases hc with hc | rfl
    · exact hc
    · exact absurd rfl (hminus cs)

/-- A date has two hyphens, and a numeral has at most one, in front of its digits. -/
theorem readDate_intChars (i : Int) : readDate (intChars i) = none := by
  rw [readDate]
  cases hyear : signedYear (intChars i) with
  | none => rfl
  | some p =>
    obtain ⟨year, r⟩ := p
    show (expect '-' r).bind _ = none
    rw [expect_eq_none (by decide) (isDigit_of_signedYear hyear)]
    rfl

/-- A numeral is no local time. -/
theorem readOffsetForm?_intChars (i : Int) : readOffsetForm? (intChars i) = none := by
  obtain ⟨c, cs, hcs, -, hdigits⟩ := intChars_cons i
  rw [hcs, readOffsetForm?]
  cases hyear : fixedNumber 4 (c :: cs) with
  | none => rfl
  | some p =>
    obtain ⟨year, r⟩ := p
    have hr : ∀ d ∈ r, d.isDigit = true := by
      obtain ⟨-, heq⟩ := Option.ite_none_right_eq_some.1 hyear
      cases heq
      exact fun d hd => hdigits d (List.mem_of_mem_drop hd)
    show (expect '-' r).bind _ = none
    rw [expect_eq_none (by decide) hr]
    rfl

/-- A numeral is no time of any form. -/
theorem read?_intText (i : Int) : read? (intText i) = none := by
  rw [read?, toList_intText, trimChars_intChars, readOffsetForm?_intChars, readDateTimeForm?,
    readDateForm?, readDate_intChars]
  rfl

end Timestamp

/-! ### Numerals as documents

Out of a text only objects and arrays are taken, and a numeral is neither. -/

/-- What begins like a numeral is a number, or no document. -/
theorem Document.exists_number_of_readValue {cs r : List Char} {c : Char} {d : Document}
    {rest : Rest cs} (hcs : skipSpace cs = c :: r) (hc : c.isDigit = true ∨ c = '-')
    (h : readValue cs = some (d, rest)) : ∃ n, d = .number n := by
  have hfirst {c' : Char} {r' : List Char} (heq : skipSpace cs = c' :: r') : c' = c := by
    rw [hcs] at heq
    exact (List.cons.inj heq).1.symm
  rw [readValue] at h
  split at h
  next heq =>
    cases h
  next heq =>
    obtain rfl := hfirst heq
    rcases hc with hc | hc <;> cases hc
  next heq =>
    obtain rfl := hfirst heq
    rcases hc with hc | hc <;> cases hc
  next heq =>
    obtain rfl := hfirst heq
    rcases hc with hc | hc <;> cases hc
  next heq =>
    obtain rfl := hfirst heq
    rw [if_pos hc.symm] at h
    split at h
    next n t hn =>
      cases h
      exact ⟨n, rfl⟩
    next => cases h

/-- A document that begins like a numeral is a number. -/
theorem Document.exists_number_of_read? {s : String} {c : Char} {cs : List Char} {d : Document}
    (hs : s.toList = c :: cs) (hc : c.isDigit = true ∨ c = '-') (h : read? s = some d) :
    ∃ n, d = .number n := by
  have hspace : skipSpace s.toList = c :: cs := by
    rw [hs]
    refine List.dropWhile_cons_of_neg ?_
    rcases hc with hc | rfl
    · intro hspace
      simp only [isSpace, Bool.or_eq_true, decide_eq_true_eq] at hspace
      rcases hspace with ((rfl | rfl) | rfl) | rfl <;> cases hc
    · decide
  rw [read?] at h
  split at h
  next v r hr hread =>
    obtain ⟨-, heq⟩ := Option.ite_none_right_eq_some.1 h
    cases heq
    exact exists_number_of_readValue hspace hc hread
  next => cases h

/-- A numeral is no document that would be taken in its place. -/
theorem Coercion.toDocument_intText (i : Int) :
    toDocument (.string (intText i)) = .json (.string (intText i)) := by
  obtain ⟨c, cs, hcs, hc, -⟩ := intChars_cons i
  rw [toDocument, trim_intText]
  cases hread : Document.read? (intText i) with
  | none =>
    rw [Json.read?, hread]
    rfl
  | some d =>
    obtain ⟨n, rfl⟩ := Document.exists_number_of_read? ((toList_intText i).trans hcs) hc hread
    rw [Json.read?, hread, Option.bind_some, Document.toJson?]
    cases n <;> rfl

/-! ### Numerals tell integers apart

By each kind in turn. Only the double takes different numerals to one value. -/

/-- Coerced to anything but a double, different numerals are different values. -/
theorem eq_of_coerce_intText {kind : Option Kind} {i j : Int} {v : Value}
    (hkind : kind ≠ some .float) (hi : coerce kind (.string (intText i)) = .ok v)
    (hj : coerce kind (.string (intText j)) = .ok v) : i = j := by
  have htext (h : Value.text (intText i) = .text (intText j)) : i = j :=
    intText_inj.1 (Value.text.inj h)
  -- One case for each kind; as a time no numeral is accepted at all.
  rcases kind with _ | _ | _ | _ | _ | _ | _
  case some.float => exact absurd rfl hkind
  all_goals
    simp only [coerce, coerceTo, Json.isNull, Bool.false_eq_true, if_false] at hi hj
  case none => exact htext (Except.ok.inj (hi.trans hj.symm))
  case some.string => exact htext (Except.ok.inj (hi.trans hj.symm))
  case some.int =>
    obtain ⟨hfits, rfl⟩ := Coercion.toInt_intText hi
    obtain ⟨hfits', heq⟩ := Coercion.toInt_intText hj
    exact ofInt_inj_of_fits hfits hfits' (Value.int.inj heq)
  case some.bool =>
    rcases Coercion.toBool_intText hi with ⟨rfl, rfl⟩ | ⟨rfl, rfl⟩
    · rcases Coercion.toBool_intText hj with ⟨rfl, -⟩ | ⟨-, heq⟩
      · rfl
      · cases heq
    · rcases Coercion.toBool_intText hj with ⟨-, heq⟩ | ⟨rfl, -⟩
      · cases heq
      · rfl
  case some.datetime =>
    simp only [Coercion.toTimestamp, trim_intText, intText_ne_empty, if_false,
      Timestamp.read?_intText] at hi
    cases hi
  case some.json =>
    rw [Coercion.toDocument_intText] at hi hj
    exact intText_inj.1 (Json.string.inj (Value.json.inj (Except.ok.inj (hi.trans hj.symm))))

/-- Coerced to a double, a numeral is the double that the integer is rounded to. -/
theorem coerce_float_intText {i : Int} {v : Value}
    (h : coerce (some .float) (.string (intText i)) = .ok v) : v = .float (.ofInt i) := by
  simp only [coerce, coerceTo, Json.isNull, Bool.false_eq_true, if_false] at h
  exact Coercion.toFloat_intText h

end TenantGate
