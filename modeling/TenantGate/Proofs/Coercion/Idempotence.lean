import TenantGate.Proofs.Coercion.Missing
import TenantGate.Proofs.Json.Number
import TenantGate.Proofs.Time.RoundTrip
/-!
# Coercing what was coerced

Each kind has values of its own (`Value.IsOf`). A coercion gives a value of the kind
(`isOf_of_coerce`), and a value of a kind is coerced from its JSON rendering to itself
(`IsOf.coerce_rendering`). So coercing a second time changes nothing (`coerce_toJson`).
-/

namespace TenantGate

open Sql

/-- A value whose numbers a JSON text can have. -/
def Json.HasProperNumber (v : Json) : Prop := ∀ n, v = .number n → n.IsProper

theorem Json.isNull_iff {v : Json} : v.isNull = true ↔ v = .null := by
  cases v <;> simp [isNull]

/-- The values that a column of a kind can hold; without a kind they are what JSON values are by
their shape. -/
inductive Sql.Value.IsOf : Option Kind → Value → Prop where
  | null (kind : Kind) : IsOf (some kind) (.null kind)
  | text (s : String) : IsOf (some .string) (.text s)
  | int (i : Int64) : IsOf (some .int) (.int i)
  | float {x : Binary64} (hx : x.isFinite = true) : IsOf (some .float) (.float x)
  | bool (b : Bool) : IsOf (some .bool) (.bool b)
  | timestamp {t : Timestamp} (ht : t.IsProper) : IsOf (some .datetime) (.timestamp t)
  /-- A document does not stand in a text of which it could be taken. -/
  | json {v : Json} (hv : v.isNull = false) (hdocument : Coercion.toDocument v = .json v) :
      IsOf (some .json) (.json v)
  | shape {v : Json} (hv : v.HasProperNumber) : IsOf none (.ofShape v)

/-! ### Coercions give values of their kind

One lemma for each kind, by the shapes that it accepts. -/

namespace Coercion

variable {v : Json} {w : Value}

theorem isOf_toText (v : Json) : (toText v).IsOf (some .string) := by
  cases v <;> exact .text _

/-- An integer is a word or missing. -/
theorem isOf_of_toInt (h : toInt v = .ok w) : w.IsOf (some .int) := by
  unfold toInt at h
  dsimp only at h
  split at h
  · split at h <;> cases h
    exact .int _
  · split at h
    · cases h
      exact .null .int
    · split at h <;> cases h
      exact .int _
  · cases h

/-- A double is finite or missing, whether it comes from a number or from a text. -/
theorem isOf_of_toFloat (hv : v.HasProperNumber) (h : toFloat v = .ok w) :
    w.IsOf (some .float) := by
  unfold toFloat at h
  dsimp only at h
  split at h
  next n =>
    cases h
    exact .float (hv n rfl).isFinite_toBinary64
  next s =>
    split at h
    · cases h
      exact .null .float
    · split at h
      next x hx =>
        cases h
        obtain ⟨d, -, hd⟩ := Option.bind_eq_some_iff.1 hx
        obtain ⟨hfinite, heq⟩ := Option.ite_none_right_eq_some.1 hd
        cases heq
        exact .float hfinite
      next => cases h
  next => cases h

/-- A truth value is one or missing. -/
theorem isOf_of_toBool (h : toBool v = .ok w) : w.IsOf (some .bool) := by
  unfold toBool at h
  dsimp only at h
  split at h
  · cases h
    exact .bool _
  · split at h
    · cases h
      exact .null .bool
    · split at h
      · cases h
        exact .bool true
      · split at h <;> cases h
        exact .bool false
  · cases h

/-- A time that is read is proper. -/
theorem isOf_of_toTimestamp (h : toTimestamp v = .ok w) : w.IsOf (some .datetime) := by
  unfold toTimestamp at h
  dsimp only at h
  split at h
  · split at h
    · cases h
      exact .null .datetime
    · split at h
      next t ht =>
        cases h
        exact .timestamp (Timestamp.isProper_of_read? ht)
      next => cases h
  · cases h

/-- What is taken out of a text is an object or an array, and any other value is itself. -/
theorem isOf_toDocument (hv : v.isNull = false) : (toDocument v).IsOf (some .json) := by
  cases v with
  | string s =>
    have hself {u : Json} (hu : toDocument (.string s) = .json u) (hnull : u.isNull = false)
        (hdocument : toDocument u = .json u) : (toDocument (.string s)).IsOf (some .json) := by
      rw [hu]
      exact .json hnull hdocument
    cases hread : Json.read? (Text.trim s) with
    | some u =>
      cases u with
      | object fields => exact hself (by rw [toDocument, hread]) rfl rfl
      | array items => exact hself (by rw [toDocument, hread]) rfl rfl
      | _ => exact hself (by rw [toDocument, hread]) rfl (by rw [toDocument, hread])
    | none => exact hself (by rw [toDocument, hread]) rfl (by rw [toDocument, hread])
  | null => cases hv
  | _ => exact .json hv rfl

end Coercion

/-- A coercion gives a value of the kind, a missing one being marked with it. -/
theorem isOf_of_coerce {kind : Option Kind} {v : Json} {w : Value} (hv : v.HasProperNumber)
    (h : coerce kind v = .ok w) : w.IsOf kind := by
  cases kind with
  | none =>
    cases h
    exact .shape hv
  | some k =>
    simp only [coerce, coerceTo] at h
    split at h
    next =>
      cases h
      exact .null k
    next hnull =>
      rw [Bool.not_eq_true] at hnull
      cases k with
      | string =>
        cases h
        exact Coercion.isOf_toText v
      | int => exact Coercion.isOf_of_toInt h
      | float => exact Coercion.isOf_of_toFloat hv h
      | bool => exact Coercion.isOf_of_toBool h
      | datetime => exact Coercion.isOf_of_toTimestamp h
      | json =>
        cases h
        exact Coercion.isOf_toDocument hnull

/-! ### Values of a kind are coerced to themselves

The rendering of a value has a shape that its kind accepts, and is read as that value again. -/

namespace Sql.Value

/-- A missing value is marked with the kind, and with `string` where there is none. -/
theorem IsOf.kind_of_null {kind : Option Kind} {k : Kind} (h : (Value.null k).IsOf kind) :
    k = kind.getD .string := by
  generalize hw : Value.null k = w at h
  cases h with
  | null kind =>
    cases hw
    rfl
  | @shape v hv =>
    cases v with
    | null =>
      cases hw
      rfl
    | number n =>
      simp only [ofShape] at hw
      split at hw <;> cases hw
    | _ => cases hw
  | _ => cases hw

/-- A time is read from its rendering if it is read from its text. -/
theorem coerceTo_toJson_timestamp {t : Timestamp} (ht : Timestamp.read? t.text = some t) :
    coerceTo .datetime (timestamp t).toJson = .ok (.timestamp t) := by
  have hread : Timestamp.read? (Text.trim t.text) = some t := by
    rwa [Timestamp.read?, Text.trim, String.toList_ofList, Text.trimChars_trimChars]
  have hne : Text.trim t.text ≠ "" := by
    intro hempty
    rw [hempty] at hread
    cases hread
  simp only [toJson, coerceTo, Json.isNull, Bool.false_eq_true, if_false, Coercion.toTimestamp,
    if_neg hne, hread]

/-- A word written as a number is read as that word. -/
theorem toInt64?_integer (i : Int64) : (JsonNumber.integer i.toInt).toInt64? = some i :=
  Number.toInt64?_eq_some_iff.2 rfl

/-- What a value is by its shape shows in its rendering. -/
theorem ofShape_toJson {v : Json} (hv : v.HasProperNumber) :
    ofShape (ofShape v).toJson = ofShape v := by
  cases v with
  | number n =>
    cases hword : n.toInt64? with
    | some i =>
      have hshape : ofShape (.number n) = .int i := by rw [ofShape, hword]
      rw [hshape, toJson, Json.ofInt64, ofShape, toInt64?_integer]
    | none =>
      have hshape : ofShape (.number n) = .float n.toBinary64 := by rw [ofShape, hword]
      have hfinite := (hv n rfl).isFinite_toBinary64
      rw [hshape, toJson, if_pos hfinite]
      rfl
  | _ => rfl

/-- A value of a kind is coerced from its rendering, a time if its year can be written. -/
theorem IsOf.coerce_rendering {kind : Option Kind} {w : Value} (h : w.IsOf kind)
    (hyear : ∀ t, w = .timestamp t → 0 ≤ t.date.year ∧ t.date.year ≤ 9999) :
    coerce kind w.toJson = .ok w := by
  cases h with
  | null kind => rfl
  | text s => rfl
  | int i =>
    simp only [toJson, Json.ofInt64, coerce, coerceTo, Json.isNull, Bool.false_eq_true, if_false,
      Coercion.toInt, Coercion.intOfNumber, toInt64?_integer]
  | @float x hx =>
    have hjson : (Value.float x).toJson = .number (.double x) := if_pos hx
    rw [hjson]
    rfl
  | bool b => rfl
  | timestamp ht =>
    obtain ⟨hpos, hle⟩ := hyear _ rfl
    exact coerceTo_toJson_timestamp (ht.read?_text hpos hle)
  | @json v hv hdocument =>
    simp only [toJson, coerce, coerceTo, hv, Bool.false_eq_true, if_false, hdocument]
  | shape hv => exact congrArg Except.ok (ofShape_toJson hv)

end Sql.Value

/-- Coercing is idempotent through JSON: the rendering of what was coerced is coerced to the same
value again, a time in a year of four digits. What was coerced is missing exactly where the value
was null, or a text of blanks for a kind that has none, and then it is marked with the kind, or with
`string` where none is given. -/
theorem coerce_toJson {kind : Option Kind} {v : Json} {w : Value} (hv : v.HasProperNumber)
    (h : coerce kind v = .ok w)
    (hyear : ∀ t, w = .timestamp t → 0 ≤ t.date.year ∧ t.date.year ≤ 9999) :
    coerce kind w.toJson = .ok w ∧
      ∀ k, w = .null k ↔ (v = .null ∨ IsBlankFor kind v) ∧ k = kind.getD .string := by
  have hkind := isOf_of_coerce hv h
  have hmissing : w.isNull = true ↔ v = .null ∨ IsBlankFor kind v := by
    rw [isNull_of_coerce_iff h, Json.isNull_iff]
  refine ⟨hkind.coerce_rendering hyear, fun k => ⟨?_, ?_⟩⟩
  · rintro rfl
    exact ⟨hmissing.1 rfl, hkind.kind_of_null⟩
  · rintro ⟨hv, rfl⟩
    cases w with
    | null k => rw [hkind.kind_of_null]
    | _ => exact absurd (hmissing.2 hv) Bool.false_ne_true

/-- An integer beyond the signed word, a document in a text, a leap second in the first year that
can be written, and a text of blanks. -/
theorem coerce_toJson_examples :
    (coerce none (.number (.integer 18446744073709551615)) = .ok (.float ⟨0x43F0000000000000⟩) ∧
      coerce none (Value.float ⟨0x43F0000000000000⟩).toJson = .ok (.float ⟨0x43F0000000000000⟩)) ∧
    (coerce (some .json) (.string " [] ") = .ok (.json (.array [])) ∧
      coerce (some .json) (.array []) = .ok (.json (.array []))) ∧
    (∃ t, coerce (some .datetime) (.string "0000-01-01T00:30:60.25+00:29") = .ok (.timestamp t) ∧
      t.text = "0000-01-01T00:01:60.250+00:00" ∧
      coerce (some .datetime) (.string t.text) = .ok (.timestamp t)) ∧
    coerce (some .int) (.string " \n") = .ok (.null .int) ∧
      coerce (some .int) .null = .ok (.null .int) := by
  have hunsigned : coerce none (.number (.integer 18446744073709551615)) =
      .ok (.float ⟨0x43F0000000000000⟩) := by decide +kernel
  have hproper : (Json.number (.integer 18446744073709551615)).HasProperNumber := by
    intro n hn
    cases hn
    decide
  have hdocument : coerce (some .json) (.string " [] ") = .ok (.json (.array [])) := by
    have hread : Json.read? (Text.trim " [] ") = some (.array []) := by
      unfold Json.read? Document.read? Document.readValue
      rfl
    simp only [coerce, coerceTo, Json.isNull, Bool.false_eq_true, if_false, Coercion.toDocument,
      hread]
  have hleap : coerce (some .datetime) (.string "0000-01-01T00:30:60.25+00:29") =
      .ok (.timestamp ⟨-719528, 119, 1250000000⟩) := by decide +kernel
  have hblank : coerce (some .int) (.string " \n") = .ok (.null .int) := by decide +kernel
  -- each half of a pair comes from the general statement and the first coercion
  refine ⟨⟨hunsigned, ?_⟩, ⟨hdocument, ?_⟩, ⟨_, hleap, by decide +kernel, ?_⟩, hblank, ?_⟩
  · exact (coerce_toJson hproper hunsigned (fun _ h => by cases h)).1
  · exact (coerce_toJson (fun _ h => by cases h) hdocument (fun _ h => by cases h)).1
  · refine (coerce_toJson (fun _ h => by cases h) hleap ?_).1
    intro t ht
    cases ht
    decide +kernel
  · exact (coerce_toJson (fun _ h => by cases h) hblank (fun _ h => by cases h)).1

end TenantGate
