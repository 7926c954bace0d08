import TenantGate.Table.Basic
import TenantGate.Proofs.Text
import TenantGate.Proofs.Text.Lower
/-!
# Names of tables

A table is looked up under what a caller wrote, trimmed and in lower case. As that has to be an
identifier, only letters, digits and underscores of ASCII are left in it, none of them a capital
(`Sql.IsPlainName`), although characters beyond ASCII may have become some of them. A plain name
stays as it is when it is trimmed and lowered once more (`Sql.IsPlainName.lower_trim`).
-/

namespace TenantGate

open Sql

/-! ### Plain names

An identifier may have capitals in it; in lower case only plain characters are left. -/

/-- An identifier of lower-case letters, digits and underscores of ASCII. -/
def Sql.IsPlainName (name : String) : Prop :=
  isIdentifier name = true ∧ ∀ c ∈ name.toList, c.isLower = true ∨ c.isDigit = true ∨ c = '_'

namespace Sql

/-- Every character of an identifier is one that an identifier may have in it. -/
theorem isIdentPart_of_mem {name : String} (h : isIdentifier name = true) :
    ∀ c ∈ name.toList, isIdentPart c = true := by
  unfold isIdentifier at h
  split at h
  · cases h
  next c cs hname =>
  rw [Bool.and_eq_true, List.all_eq_true] at h
  rw [hname, List.forall_mem_cons]
  refine ⟨?_, h.2⟩
  have hstart := h.1
  simp only [isIdentStart, Bool.or_eq_true] at hstart
  simp only [isIdentPart, Char.isAlphanum, Bool.or_eq_true]
  exact hstart.imp_left .inl

/-- An identifier in lower case is plain. -/
theorem isPlainName_lower {s : String} (h : isIdentifier (Text.lower s) = true) :
    IsPlainName (Text.lower s) := by
  refine ⟨h, fun c hc => ?_⟩
  have hupper : c.isUpper = false := by
    rw [Text.lower, String.toList_ofList] at hc
    exact Text.isUpper_of_mem_lowerFrom hc
  rcases Bool.or_eq_true_iff.1 (isIdentPart_of_mem h c hc) with halphanum | hline
  · rcases Bool.or_eq_true_iff.1 halphanum with halpha | hdigit
    · rcases Bool.or_eq_true_iff.1 halpha with hcapital | hlower
      · rw [hupper] at hcapital
        cases hcapital
      · exact .inl hlower
    · exact .inr (.inl hdigit)
  · exact .inr (.inr (by simpa using hline))

/-- A plain character is a visible one of ASCII and no capital. -/
theorem toNat_bounds_of_plain {c : Char} (h : c.isLower = true ∨ c.isDigit = true ∨ c = '_') :
    33 ≤ c.toNat ∧ c.toNat ≤ 126 ∧ c.isUpper = false := by
  rw [← Bool.not_eq_true, Text.isUpper_iff]
  rcases h with h | h | rfl
  · obtain ⟨hleast, hgreatest⟩ := Bool.and_eq_true_iff.1 h
    have h₁ : 97 ≤ c.toNat := UInt32.le_iff_toNat_le.1 (of_decide_eq_true hleast)
    have h₂ : c.toNat ≤ 122 := UInt32.le_iff_toNat_le.1 (of_decide_eq_true hgreatest)
    omega
  · obtain ⟨hleast, hgreatest⟩ := Bool.and_eq_true_iff.1 h
    have h₁ : 48 ≤ c.toNat := UInt32.le_iff_toNat_le.1 (of_decide_eq_true hleast)
    have h₂ : c.toNat ≤ 57 := UInt32.le_iff_toNat_le.1 (of_decide_eq_true hgreatest)
    omega
  · decide

theorem IsPlainName.not_mem {name : String} {c : Char} (h : IsPlainName name)
    (hc : ¬ (c.isLower = true ∨ c.isDigit = true ∨ c = '_')) : c ∉ name.toList :=
  fun hmem => hc (h.2 c hmem)

/-- A plain name has no blanks around it. -/
theorem IsPlainName.trim_eq {name : String} (h : IsPlainName name) : Text.trim name = name := by
  apply Text.trim_of_visible
  intro c hc
  obtain ⟨hleast, hgreatest, -⟩ := toNat_bounds_of_plain (h.2 c hc)
  exact Text.not_blank_of_ascii hleast hgreatest

/-- A plain name is trimmed and in lower case. -/
theorem IsPlainName.lower_trim {name : String} (h : IsPlainName name) :
    Text.lower (Text.trim name) = name := by
  have hlower : Text.lowerFrom [] name.toList = name.toList := by
    refine Text.lowerFrom_eq_self fun c hc => ?_
    obtain ⟨-, hgreatest, hupper⟩ := toNat_bounds_of_plain (h.2 c hc)
    exact ⟨by omega, hupper⟩
  rw [h.trim_eq, Text.lower, hlower, String.ofList_toList]

end Sql

/-- The name of a table is what a caller wrote, trimmed and in lower case, if that is an identifier.
-/
theorem Table.readName_eq_ok_iff {raw name : String} :
    Table.readName raw = .ok name ↔
      name = Text.lower (Text.trim raw) ∧ isIdentifier name = true := by
  unfold Table.readName
  generalize Text.lower (Text.trim raw) = low
  dsimp only
  constructor
  · intro h
    split at h
    · cases h
    split at h
    · cases h
    next hident =>
    cases h
    exact ⟨rfl, by simpa using hident⟩
  · rintro ⟨rfl, hident⟩
    have hne : name ≠ "" := by
      rintro rfl
      cases hident
    rw [if_neg hne, if_neg (by simp [hident])]

/-- The name of a table is plain. -/
theorem Table.isPlainName_of_readName {raw name : String} (h : Table.readName raw = .ok name) :
    IsPlainName name := by
  obtain ⟨rfl, hident⟩ := Table.readName_eq_ok_iff.1 h
  exact isPlainName_lower hident

/-- The name of a table is its own name. -/
theorem Table.readName_of_isPlainName {name : String} (h : IsPlainName name) :
    Table.readName name = .ok name :=
  Table.readName_eq_ok_iff.2 ⟨h.lower_trim.symm, h.1⟩

end TenantGate
