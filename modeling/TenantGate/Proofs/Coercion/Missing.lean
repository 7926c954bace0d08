import TenantGate.Coercion
import TenantGate.Proofs.Text.Lower
/-!
# Missing values

A coercion gives no value for a JSON null and for a text of blanks, unless the kind has such texts:
`isNull_of_coerce_iff` says that these are the two ways to a missing value.
-/

namespace TenantGate

open Sql

/-- A text of blanks, for a column of a kind that has no such value. -/
def IsBlankFor (kind : Option Kind) (v : Json) : Prop :=
  kind ∈ [some .int, some .float, some .bool, some .datetime] ∧
    ∃ s, v = .string s ∧ Text.trim s = ""

/-- Of a string, being blank is what counts, and the kind. -/
theorem isBlankFor_string_iff {kind : Option Kind} {s : String} :
    IsBlankFor kind (.string s) ↔
      kind ∈ [some .int, some .float, some .bool, some .datetime] ∧ Text.trim s = "" := by
  simp [IsBlankFor]

namespace Coercion

theorem isNull_toText (v : Json) : (toText v).isNull = false := by
  cases v <;> rfl

/-- As a document every value is there. -/
theorem isNull_toDocument (v : Json) : (toDocument v).isNull = false := by
  unfold toDocument
  split
  · split <;> rfl
  · rfl

/-- As an integer, blanks are missing and nothing else. -/
theorem isNull_toInt_iff {v : Json} {w : Value} (h : toInt v = .ok w) :
    w.isNull = true ↔ IsBlankFor (some .int) v := by
  cases v with
  | string s =>
    rw [isBlankFor_string_iff]
    simp only [toInt] at h
    split at h
    next hblank =>
      cases h
      simp [Value.isNull, hblank]
    next hne =>
      split at h <;> cases h
      simp [Value.isNull, hne]
  | number n =>
    simp only [toInt] at h
    split at h <;> cases h
    simp [Value.isNull, IsBlankFor]
  | _ => cases h

/-- The same as a double. -/
theorem isNull_toFloat_iff {v : Json} {w : Value} (h : toFloat v = .ok w) :
    w.isNull = true ↔ IsBlankFor (some .float) v := by
  cases v with
  | string s =>
    rw [isBlankFor_string_iff]
    simp only [toFloat] at h
    split at h
    next hblank =>
      cases h
      simp [Value.isNull, hblank]
    next hne =>
      split at h <;> cases h
      simp [Value.isNull, hne]
  | number n =>
    cases h
    simp [Value.isNull, IsBlankFor]
  | _ => cases h

/-- The same as a truth value; the words are compared in lower case, which takes no text away. -/
theorem isNull_toBool_iff {v : Json} {w : Value} (h : toBool v = .ok w) :
    w.isNull = true ↔ IsBlankFor (some .bool) v := by
  cases v with
  | string s =>
    have hlower : Text.lower (Text.trim s) = "" ↔ Text.trim s = "" := by
      refine ⟨Decidable.not_imp_not.1 Text.lower_ne_empty, ?_⟩
      intro hblank
      rw [hblank]
      rfl
    rw [isBlankFor_string_iff]
    simp only [toBool, hlower] at h
    split at h
    next hblank =>
      cases h
      simp [Value.isNull, hblank]
    next hne =>
      -- a word for true, for false, or neither
      split at h
      · cases h
        simp [Value.isNull, hne]
      · split at h <;> cases h
        simp [Value.isNull, hne]
  | bool b =>
    cases h
    simp [Value.isNull, IsBlankFor]
  | _ => cases h

/-- The same as a time. -/
theorem isNull_toTimestamp_iff {v : Json} {w : Value} (h : toTimestamp v = .ok w) :
    w.isNull = true ↔ IsBlankFor (some .datetime) v := by
  cases v with
  | string s =>
    rw [isBlankFor_string_iff]
    simp only [toTimestamp] at h
    split at h
    next hblank =>
      cases h
      simp [Value.isNull, hblank]
    next hne =>
      split at h <;> cases h
      simp [Value.isNull, hne]
  | _ => cases h

end Coercion

/-- By its shape, only null is missing. -/
theorem Sql.Value.isNull_ofShape (v : Json) : (ofShape v).isNull = v.isNull := by
  cases v with
  | number n =>
    simp only [ofShape]
    cases n.toInt64? <;> rfl
  | _ => rfl

/-- A coercion gives no value exactly for a JSON null and for a blank text. -/
theorem isNull_of_coerce_iff {kind : Option Kind} {v : Json} {w : Value}
    (h : coerce kind v = .ok w) : w.isNull = true ↔ v.isNull = true ∨ IsBlankFor kind v := by
  cases kind with
  | none =>
    cases h
    rw [Value.isNull_ofShape]
    simp [IsBlankFor]
  | some k =>
    simp only [coerce, coerceTo] at h
    split at h
    next hnull =>
      cases h
      simp [Value.isNull, hnull]
    next hnull =>
      rw [or_iff_right hnull]
      -- A null has been answered before the kind is looked at.
      cases k with
      | string =>
        cases h
        simp [Coercion.isNull_toText, IsBlankFor]
      | int => exact Coercion.isNull_toInt_iff h
      | float => exact Coercion.isNull_toFloat_iff h
      | bool => exact Coercion.isNull_toBool_iff h
      | datetime => exact Coercion.isNull_toTimestamp_iff h
      | json =>
        cases h
        simp [Coercion.isNull_toDocument, IsBlankFor]

/-- The coercion of a text that is trimmed and not empty is a value, of whatever kind. -/
theorem isNull_of_coerce_string {kind : Option Kind} {s : String} {w : Value}
    (htrim : Text.trim s = s) (hne : s ≠ "") (h : coerce kind (.string s) = .ok w) :
    w.isNull = false := by
  rw [← Bool.not_eq_true, isNull_of_coerce_iff h, isBlankFor_string_iff, htrim]
  simp [hne, Json.isNull]

end TenantGate
