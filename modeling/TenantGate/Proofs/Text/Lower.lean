import TenantGate.Text.Blank
import TenantGate.Text.Lower
/-!
# Lower case

A text that is not empty has a lower case that is not (`lower_ne_empty`). No capital of ASCII is
left in it (`isUpper_of_mem_lowerFrom`), not even of characters beyond ASCII, and a text of ASCII
without capitals is its own lower case (`lowerFrom_eq_self`). Blanks stay
(`mem_lowerFrom_of_blank`).
-/

namespace TenantGate.Text

/-- Every character has a lower case, if only itself. -/
theorem lowerChar_ne_nil (c : Char) : lowerChar c ≠ [] := by
  unfold lowerChar
  dsimp only
  split
  · split <;> simp
  · split
    · simp
    · split <;> simp

/-- No text vanishes in lower case. -/
theorem lower_ne_empty {s : String} (h : s ≠ "") : lower s ≠ "" := by
  obtain ⟨c, cs, hs⟩ := List.exists_cons_of_ne_nil (mt String.toList_eq_nil_iff.1 h)
  intro hl
  have hnil := congrArg String.toList hl
  rw [lower, String.toList_ofList, hs, lowerFrom] at hnil
  have hlow := (List.append_eq_nil_iff.1 hnil).1
  split at hlow
  · split at hlow <;> cases hlow
  · exact lowerChar_ne_nil c hlow

/-! ### Capitals

Letters beyond ASCII may have a lower case in ASCII, like the sign for kelvin. By the table of
capitals, none of them has one that is a capital again. -/

theorem isUpper_iff {c : Char} : c.isUpper = true ↔ 0x41 ≤ c.toNat ∧ c.toNat ≤ 0x5A :=
  decide_eq_true_iff.trans (and_congr UInt32.le_iff_toNat_le UInt32.le_iff_toNat_le)

/-- No code point beyond `Z` is a capital of ASCII. -/
theorem isUpper_ofNat {n : Nat} (h : 0x5A < n) : (Char.ofNat n).isUpper = false := by
  by_cases hvalid : n.isValidChar
  · have hn : (Char.ofNat n).toNat = n := by
      unfold Char.ofNat
      rw [dif_pos hvalid]
      rfl
    rw [← Bool.not_eq_true, isUpper_iff, hn]
    omega
  · unfold Char.ofNat
    rw [dif_neg hvalid]
    rfl

/-- No capital beyond ASCII has a lower case that is a capital of ASCII, or stands before those. -/
theorem capitals_shift : ∀ r ∈ LetterCase.capitals, 0x5A < r.first + r.shift := by
  decide +kernel

/-- The lower case of a character is no capital of ASCII, also where the character lies beyond. -/
theorem isUpper_of_mem_lowerChar {c d : Char} (h : d ∈ lowerChar c) : d.isUpper = false := by
  unfold lowerChar at h
  dsimp only at h
  -- in ASCII; the one character with two; a character of the table; any other
  split at h
  · split at h
    next hupper =>
      simp only [Bool.and_eq_true, decide_eq_true_eq] at hupper
      rw [List.mem_singleton.1 h]
      exact isUpper_ofNat (by omega)
    next hupper =>
      simp only [Bool.and_eq_true, decide_eq_true_eq] at hupper
      rw [List.mem_singleton.1 h, ← Bool.not_eq_true, isUpper_iff]
      exact hupper
  next hascii =>
  split at h
  · simp only [List.mem_cons, List.not_mem_nil, or_false] at h
    rcases h with rfl | rfl <;> rfl
  · split at h
    next r hr =>
      have hwithin := List.find?_some hr
      have hshift := capitals_shift r (List.mem_of_find?_eq_some hr)
      simp only [Bool.and_eq_true, decide_eq_true_eq] at hwithin
      rw [List.mem_singleton.1 h]
      exact isUpper_ofNat (by omega)
    next =>
      rw [List.mem_singleton.1 h, ← Bool.not_eq_true, isUpper_iff]
      omega

/-- No capital of ASCII is left in a text in lower case. -/
theorem isUpper_of_mem_lowerFrom {cs before : List Char} {d : Char} (h : d ∈ lowerFrom before cs) :
    d.isUpper = false := by
  induction cs generalizing before with
  | nil => cases h
  | cons c cs ih =>
    rcases List.mem_append.1 h with h | h
    · split at h
      · -- the two small sigmas
        split at h <;> rw [List.mem_singleton.1 h] <;> rfl
      · exact isUpper_of_mem_lowerChar h
    · exact ih h

/-- Characters of ASCII that are no capitals stay as they are. -/
theorem lowerFrom_eq_self {cs before : List Char}
    (h : ∀ c ∈ cs, c.toNat < 0x80 ∧ c.isUpper = false) : lowerFrom before cs = cs := by
  induction cs generalizing before with
  | nil => rfl
  | cons c cs ih =>
    obtain ⟨⟨hascii, hupper⟩, hcs⟩ := List.forall_mem_cons.1 h
    have hsigma : c ≠ 'Σ' := by
      rintro rfl
      exact absurd hascii (by decide)
    rw [← Bool.not_eq_true, isUpper_iff] at hupper
    have hlow : lowerChar c = [c] := by
      unfold lowerChar
      dsimp only
      rw [if_pos hascii, if_neg (by simpa using hupper)]
    rw [lowerFrom, if_neg hsigma, hlow, ih hcs]
    rfl

/-! ### Blanks

No blank is a letter, so lower case leaves blanks where they are. -/

/-- The code points of the blanks. -/
def blankCodes : List Nat :=
  [0x09, 0x0A, 0x0B, 0x0C, 0x0D, 0x20, 0x85, 0xA0, 0x1680, 0x2000, 0x2001, 0x2002, 0x2003, 0x2004,
    0x2005, 0x2006, 0x2007, 0x2008, 0x2009, 0x200A, 0x2028, 0x2029, 0x202F, 0x205F, 0x3000]

/-- The blanks are these code points. -/
theorem toNat_mem_blankCodes {c : Char} (hc : isBlank c = true) : c.toNat ∈ blankCodes := by
  simp only [isBlank, Bool.or_eq_true, Bool.and_eq_true, decide_eq_true_eq, beq_iff_eq] at hc
  simp only [blankCodes, List.mem_cons, List.not_mem_nil, or_false]
  omega

/-- None of the code points is in the table of capitals. -/
theorem not_capital_of_blank : ∀ n ∈ blankCodes, n ≠ 0x130 ∧ ¬ (0x41 ≤ n ∧ n ≤ 0x5A) ∧
    LetterCase.capitals.find?
      (fun r => r.first ≤ n && n ≤ r.last && (n - r.first) % r.step == 0) = none := by
  decide +kernel

/-- A blank is its own lower case. -/
theorem lowerChar_of_blank {c : Char} (hc : isBlank c = true) : lowerChar c = [c] := by
  obtain ⟨hdotted, hupper, hnone⟩ := not_capital_of_blank _ (toNat_mem_blankCodes hc)
  have hupper : ¬ (decide (0x41 ≤ c.toNat) && decide (c.toNat ≤ 0x5A)) = true := by
    simpa using hupper
  unfold lowerChar
  dsimp only
  rw [if_neg hupper, if_neg hdotted, hnone]
  exact ite_self _

/-- The blanks of a text are in its lower case. -/
theorem mem_lowerFrom_of_blank {cs before : List Char} {c : Char} (hc : isBlank c = true)
    (h : c ∈ cs) : c ∈ lowerFrom before cs := by
  induction cs generalizing before with
  | nil => cases h
  | cons d cs ih =>
    rw [lowerFrom]
    rcases List.mem_cons.1 h with rfl | h
    · have hsigma : c ≠ 'Σ' := by
        rintro rfl
        exact absurd hc (by decide)
      rw [if_neg hsigma, lowerChar_of_blank hc]
      exact List.mem_cons_self
    · exact List.mem_append_right _ (ih h)

end TenantGate.Text
