import Mathlib.Algebra.Group.Nat.Defs
import TenantGate.Proofs.Number
import TenantGate.Proofs.Text
import TenantGate.Time.Reading
/-!
# Numbers of a fixed width

A number that fits `width` digits is written with just that many (`length_padded`), each way to read
digits finds it again, and what is written is ordered as the numbers are (`padded_append_lt_iff`).
-/

namespace TenantGate.Timestamp

open Number Text

variable {α : Type} {width n m : Nat} {c : Char} {cs ds r r' : List Char}

/-! ### Writing

A number is filled up with zeros from the left to its width. -/

/-- What is written is digits. -/
theorem isDigit_of_mem_padded (h : c ∈ padded width n) : c.isDigit = true := by
  obtain hzero | hdigit := List.mem_append.1 h
  · rw [List.eq_of_mem_replicate hzero]
    rfl
  · exact isDigit_of_mem_natChars hdigit

theorem not_blank_of_mem_padded : ∀ c ∈ padded width n, isBlank c = false :=
  fun _ hc => not_blank_of_isDigit (isDigit_of_mem_padded hc)

/-- Something is written of every number. -/
theorem padded_ne_nil : padded width n ≠ [] := by
  intro h
  exact Nat.toDigits_ne_nil (List.append_eq_nil_iff.1 h).2

/-- What is written makes the number again; zeros in front count nothing. -/
@[simp] theorem ofDigitChars_padded : Nat.ofDigitChars 10 (padded width n) 0 = n := by
  rw [padded, Nat.ofDigitChars_append, Nat.ofDigitChars_replicate_zero, Nat.mul_zero]
  exact Nat.ofDigitChars_ten_toDigits

/-- A number that fits is as wide as it should be. -/
theorem length_padded (hwidth : 0 < width) (hn : n < 10 ^ width) :
    (padded width n).length = width := by
  have hle : (natChars n).length ≤ width := (Nat.length_toDigits_le_iff (by decide) hwidth).2 hn
  rw [padded, List.length_append, List.length_replicate]
  omega

/-! ### The order

Digits of one length compare as texts as they do as numbers. The induction is on the texts: the
first digits that differ decide both, since all that comes after a digit counts for less than one of
it. -/

/-- The first digit counts for a power of ten. -/
theorem ofDigitChars_cons : Nat.ofDigitChars 10 (c :: cs) 0 =
    10 ^ cs.length * (c.toNat - 48) + Nat.ofDigitChars 10 cs 0 := by
  rw [Nat.ofDigitChars_cons, Nat.ofDigitChars_eq_ofDigitChars_zero, Nat.mul_zero, Nat.zero_add]
  rfl

/-- So many digits make less than that power of ten. -/
theorem ofDigitChars_lt (hcs : ∀ c ∈ cs, c.isDigit = true) :
    Nat.ofDigitChars 10 cs 0 < 10 ^ cs.length := by
  induction cs with
  | nil => decide
  | cons c cs ih =>
    obtain ⟨hc, hcs⟩ := List.forall_mem_cons.1 hcs
    have hdigit : c.toNat - 48 ≤ 9 := Nat.sub_le_of_le_add (Char.isDigit_iff_toNat.1 hc).2
    have hfirst := Nat.mul_le_mul_left (10 ^ cs.length) hdigit
    have hrest := ih hcs
    rw [ofDigitChars_cons, List.length_cons, Nat.pow_succ]
    omega

/-- A smaller digit counts for more than all that comes after it. -/
theorem place_lt {k a b x : Nat} (hab : a < b) (hx : x < k) (y : Nat) :
    k * a + x < k * b + y :=
  calc k * a + x < k * a + k := Nat.add_lt_add_left hx _
    _ = k * (a + 1) := (Nat.mul_succ k a).symm
    _ ≤ k * b := Nat.mul_le_mul_left k hab
    _ ≤ k * b + y := Nat.le_add_right _ y

/-- Digits of one length are ordered as the numbers that they are. -/
theorem digits_lt_iff (hcs : ∀ c ∈ cs, c.isDigit = true) (hds : ∀ d ∈ ds, d.isDigit = true)
    (hlength : cs.length = ds.length) :
    cs < ds ↔ Nat.ofDigitChars 10 cs 0 < Nat.ofDigitChars 10 ds 0 := by
  induction cs generalizing ds with
  | nil =>
    obtain rfl := List.length_eq_zero_iff.1 hlength.symm
    simp
  | cons c cs ih =>
    cases ds with
    | nil => cases hlength
    | cons d ds =>
      obtain ⟨hc, hcs⟩ := List.forall_mem_cons.1 hcs
      obtain ⟨hd, hds⟩ := List.forall_mem_cons.1 hds
      have hlength : cs.length = ds.length := Nat.succ.inj hlength
      have hrest := ofDigitChars_lt hcs
      have hrest' := ofDigitChars_lt hds
      rw [Char.isDigit_iff_toNat, show '0'.toNat = 48 from rfl, show '9'.toNat = 57 from rfl]
        at hc hd
      rw [List.cons_lt_cons_iff, ih hcs hds hlength, ofDigitChars_cons, ofDigitChars_cons, hlength,
        Char.lt_def, UInt32.lt_iff_toNat_lt]
      rw [hlength] at hrest
      -- the first digits differ in either way, or the rest decides
      rcases Nat.lt_trichotomy c.toNat d.toNat with hlt | heq | hlt
      · exact iff_of_true (.inl hlt) (place_lt (by omega) hrest _)
      · obtain rfl : c = d := Char.ext (UInt32.toNat_inj.1 heq)
        simp
      · refine iff_of_false ?_ (Nat.lt_asymm (place_lt (by omega) hrest' _))
        rintro (hlt' | ⟨rfl, -⟩)
        · exact Nat.lt_asymm hlt hlt'
        · exact Nat.lt_irrefl _ hlt

/-- Texts whose beginnings are of one length are compared at their beginnings first. -/
theorem append_lt_append_iff (h : cs.length = ds.length) :
    cs ++ r < ds ++ r' ↔ cs < ds ∨ cs = ds ∧ r < r' := by
  induction cs generalizing ds with
  | nil =>
    obtain rfl := List.length_eq_zero_iff.1 h.symm
    simp
  | cons c cs ih =>
    cases ds with
    | nil => cases h
    | cons d ds =>
      rw [List.cons_append, List.cons_append, List.cons_lt_cons_iff, List.cons_lt_cons_iff,
        ih (Nat.succ.inj h), List.cons.injEq]
      simp only [and_or_left, or_assoc, and_assoc]

/-- Numbers are written in their order. -/
theorem padded_lt_iff (hwidth : 0 < width) (hn : n < 10 ^ width) (hm : m < 10 ^ width) :
    padded width n < padded width m ↔ n < m := by
  rw [digits_lt_iff (fun _ => isDigit_of_mem_padded) (fun _ => isDigit_of_mem_padded),
    ofDigitChars_padded, ofDigitChars_padded]
  rw [length_padded hwidth hn, length_padded hwidth hm]

/-- Numbers with the same mark after them are compared before what follows. -/
theorem padded_append_lt_iff (hwidth : 0 < width) (hn : n < 10 ^ width) (hm : m < 10 ^ width) :
    padded width n ++ c :: r < padded width m ++ c :: r' ↔ n < m ∨ n = m ∧ r < r' := by
  have hinj : padded width n = padded width m ↔ n = m := by
    constructor
    · intro h
      have hvalue := congrArg (Nat.ofDigitChars 10 · 0) h
      simpa using hvalue
    · exact congrArg _
  rw [append_lt_append_iff (by rw [length_padded hwidth hn, length_padded hwidth hm]),
    padded_lt_iff hwidth hn hm, hinj, List.cons_lt_cons_iff]
  simp

/-! ### Reading

Each of the readers takes the digits that were written and leaves what follows, whatever that is. -/

/-- A number begins without blanks. -/
theorem trimStart_padded : trimStart (padded width n ++ r) = padded width n ++ r := by
  apply trimStart_eq_self_of_head?
  intro c hc
  rw [List.head?_append_of_ne_nil _ padded_ne_nil] at hc
  exact not_blank_of_mem_padded c (List.mem_of_head? hc)

section Reading

variable (hwidth : 0 < width) (hn : n < 10 ^ width)

include hwidth hn

/-- The first characters are the number, and then the rest follows. -/
theorem take_padded : (padded width n ++ r).take width = padded width n ∧
    (padded width n ++ r).drop width = r := by
  have hlength := length_padded hwidth hn
  exact ⟨List.take_left' hlength, List.drop_left' hlength⟩

/-- A number is read at its width. -/
theorem fixedNumber_padded : fixedNumber width (padded width n ++ r) = some (n, r) := by
  obtain ⟨htake, hdrop⟩ := take_padded (r := r) hwidth hn
  have hdigits : (padded width n).all Char.isDigit = true :=
    List.all_eq_true.2 fun _ => isDigit_of_mem_padded
  rw [fixedNumber, htake, hdrop, if_pos ⟨length_padded hwidth hn, hdigits⟩, ofDigitChars_padded]

/-- A number is read at its width where fewer digits would do. -/
theorem shortNumber_padded : shortNumber width (padded width n ++ r) = some (n, r) := by
  obtain ⟨htake, hdrop⟩ := take_padded (r := r) hwidth hn
  have hdigits : (padded width n).takeWhile Char.isDigit = padded width n :=
    List.takeWhile_eq_self_iff.2 fun _ => isDigit_of_mem_padded
  rw [shortNumber, trimStart_padded, htake, hdigits, length_padded hwidth hn, hdrop,
    ofDigitChars_padded, if_neg]
  rw [List.isEmpty_iff]
  exact padded_ne_nil

theorem bind_fixedNumber (f : Nat × List Char → Option α) :
    (fixedNumber width (padded width n ++ r)).bind f = f (n, r) := by
  rw [fixedNumber_padded hwidth hn, Option.bind_some]

theorem bind_shortNumber (f : Nat × List Char → Option α) :
    (shortNumber width (padded width n ++ r)).bind f = f (n, r) := by
  rw [shortNumber_padded hwidth hn, Option.bind_some]

end Reading

theorem bind_expect (f : List Char → Option α) : (expect c (c :: r)).bind f = f r := by
  rw [expect, if_pos rfl, Option.bind_some]

/-- Blanks before a number are passed over. -/
theorem shortNumber_blank : shortNumber width (' ' :: cs) = shortNumber width cs := by
  have hstart : trimStart (' ' :: cs) = trimStart cs :=
    trimStart_blank_append (List.forall_mem_singleton.2 rfl)
  rw [shortNumber, shortNumber, hstart]

/-- A year of four digits without a sign is read. -/
theorem signedYear_padded (hn : n < 10 ^ 4) :
    signedYear (padded 4 n ++ r) = some ((n : Int), r) := by
  have hne : padded 4 n ≠ [] := padded_ne_nil
  obtain ⟨c, cs, hcs⟩ := List.exists_cons_of_ne_nil hne
  have hc : c.isDigit = true := isDigit_of_mem_padded (hcs ▸ List.mem_cons_self)
  have hnumber : shortNumber 4 (padded 4 n ++ r) = some (n, r) := shortNumber_padded (by decide) hn
  rw [signedYear, trimStart_padded]
  rw [hcs] at hnumber ⊢
  split
  next heq =>
    cases heq
    cases hc
  next heq =>
    cases heq
    cases hc
  next =>
    rw [hnumber]
    rfl

end TenantGate.Timestamp
