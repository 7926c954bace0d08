import TenantGate.Proofs.Dict
import TenantGate.Proofs.Tenancy.Scope
import TenantGate.Record
import TenantGate.Table.Overlay
/-!
# Columns of a record

A column gets into a record in one of two ways: a field of the payload is written to it, or it holds
a generated time. `contains_ofPayload_iff` says that there is no third way. Fields are written
neither to the key nor to a tenant column, but a generated time is put wherever the table has a
column of its name, whatever else that column is; and where an overlay lists the writable columns,
nothing asks whether the table has them. `ofPayload_bounds` says what this leaves of a record.
-/

namespace TenantGate

/-- The columns that the table opens to callers, before the key is taken out. -/
def Table.opened (t : Table) : List String := if t.writable.isEmpty then t.columns else t.writable

/-- A write of this mode puts a generated time into the column. -/
def Table.Generates (t : Table) (mode : WriteMode) (column : String) : Prop :=
  t.timestamps = true ∧ column ∈ t.columns ∧
    (column = Table.updatedAt ∨ mode = .insert ∧ column = Table.createdAt)

namespace Record

variable {t : Table} {n : TenantNaming} {mode : WriteMode} {now : Timestamp} {column : String}

/-! ### Fields of a payload

A field reaches a column by the name that the table knows it by. The key and the tenant columns are
closed to all fields, so no other name for them helps. -/

/-- A field of the payload is written to the column. -/
def Reaches (t : Table) (n : TenantNaming) (payload : List (String × Json)) (column : String) :
    Prop :=
  ∃ field ∈ payload, target? t n field.1 = some column

theorem isWritable_iff :
    t.isWritable column = true ↔ column ∈ t.opened ∧ column ≠ t.primaryKey := by
  simp [Table.isWritable, Table.opened]

/-- What a field is written to is open to callers, and neither the key nor a tenant column, by
whatever name the field reaches it. -/
theorem target?_eq_some_iff {name : String} :
    target? t n name = some column ↔
      Text.trim name ≠ "" ∧ column = t.resolve name ∧ column ∈ t.opened ∧ column ≠ t.primaryKey ∧
        n.covers column = false := by
  unfold target?
  constructor
  · intro h
    split at h
    · cases h
    next hname =>
    dsimp only at h
    split at h
    · next hopen =>
      cases h
      rw [Bool.and_eq_true, Bool.not_eq_true', isWritable_iff] at hopen
      exact ⟨hname, rfl, hopen.1.1, hopen.1.2, hopen.2⟩
    · cases h
  · rintro ⟨hname, rfl, hopened, hkey, htenant⟩
    have hwritable := isWritable_iff.2 ⟨hopened, hkey⟩
    rw [if_neg hname]
    simp [hwritable, htenant]

/-- A failure of one field stays, whatever the fields after it. -/
theorem isEmpty_failures_of_foldl {payload : List (String × Json)} {d : Draft}
    (h : (payload.foldl (Draft.add t n) d).failures.isEmpty = true) :
    d.failures.isEmpty = true := by
  induction payload generalizing d with
  | nil => exact h
  | cons field payload ih =>
    have hstep := ih h
    unfold Draft.add at hstep
    split at hstep
    · exact hstep
    · split at hstep
      · exact hstep
      · rw [Dict.isEmpty_insert] at hstep
        cases hstep

/-- Where no field failed, the values are those of the draft and one for each field that is
written somewhere. -/
theorem contains_foldl_add_iff {payload : List (String × Json)} {d : Draft}
    (h : (payload.foldl (Draft.add t n) d).failures.isEmpty = true) :
    (payload.foldl (Draft.add t n) d).values.contains column = true ↔
      d.values.contains column = true ∨ Reaches t n payload column := by
  -- The induction is on the fields. A failure would have stayed (`isEmpty_failures_of_foldl`), so
  -- every field that reaches a column has put a value there.
  induction payload generalizing d with
  | nil => simp [Reaches]
  | cons field payload ih =>
    have hstep : (d.add t n field).failures.isEmpty = true := isEmpty_failures_of_foldl h
    have hfield : (d.add t n field).values.contains column = true ↔
        d.values.contains column = true ∨ target? t n field.1 = some column := by
      unfold Draft.add at hstep ⊢
      split
      · next hnone => simp [hnone]
      · next target htarget =>
        rw [htarget] at hstep
        dsimp only at hstep
        split at hstep
        · rw [Dict.contains_insert, or_comm, htarget, Option.some.injEq, @eq_comm _ column]
        · rw [Dict.isEmpty_insert] at hstep
          cases hstep
    rw [List.foldl_cons, ih h, hfield, or_assoc]
    simp [Reaches]

/-! ### Generated times

A time is put into a column by its name alone; that the column may be the key or a tenant column is
not asked. -/

/-- A column that is stamped is there afterwards, if the table has it. -/
theorem contains_stamp_iff {r : Record} {stamped : String} :
    (stamp t now stamped r).contains column = true ↔
      r.contains column = true ∨ column = stamped ∧ column ∈ t.columns := by
  unfold stamp
  split
  · next hheld =>
    rw [Table.hasColumn_iff] at hheld
    rw [Dict.contains_insert, or_comm]
    refine or_congr_right ?_
    constructor
    · rintro rfl
      exact ⟨rfl, hheld⟩
    · exact And.left
  · next hheld =>
    rw [Table.hasColumn_iff] at hheld
    constructor
    · exact .inl
    · rintro (h | ⟨rfl, h⟩)
      · exact h
      · exact absurd h hheld

/-- It makes no difference to this whether something was there before. -/
theorem contains_stampMissing_iff {r : Record} {stamped : String} :
    (stampMissing t now stamped r).contains column = true ↔
      r.contains column = true ∨ column = stamped ∧ column ∈ t.columns := by
  unfold stampMissing
  split
  · next hpresent =>
    constructor
    · exact .inl
    · rintro (h | ⟨rfl, -⟩)
      · exact h
      · exact hpresent
  · exact contains_stamp_iff

/-- The two names of times are all that is added. -/
theorem contains_addTimes_iff {r : Record} :
    (addTimes t mode now r).contains column = true ↔
      r.contains column = true ∨ column ∈ t.columns ∧
        (column = Table.updatedAt ∨ mode = .insert ∧ column = Table.createdAt) := by
  cases mode with
  | insert =>
    rw [addTimes, contains_stampMissing_iff, contains_stampMissing_iff]
    tauto
  | update =>
    rw [addTimes, contains_stamp_iff]
    simp [and_comm]

/-! ### Records

Both ways together. What a record can hold beyond the columns of its table follows from here, and so
does what it never holds. -/

variable {payload : List (String × Json)} {r : Record}

/-- The columns of a record are those that the fields of the payload are written to, and those of
generated times. -/
theorem contains_ofPayload_iff (h : ofPayload t n mode now payload = .ok r) :
    r.contains column = true ↔ Reaches t n payload column ∨ t.Generates mode column := by
  unfold ofPayload at h
  dsimp only at h
  split at h
  · cases h
  next hfailures =>
  split at h
  · cases h
  have hvalues : (payload.foldl (Draft.add t n) {}).values.contains column = true ↔
      Reaches t n payload column := by
    rw [contains_foldl_add_iff (by simpa using hfailures), or_iff_right]
    simp [Dict.contains]
  split at h
  · next htimes =>
    cases h
    rw [contains_addTimes_iff, hvalues, Table.Generates]
    simp [htimes]
  · next htimes =>
    cases h
    rw [hvalues, Table.Generates]
    simp [htimes]

/-- A record holds the key, or a tenant column, exactly where the table has a generated time in that
column. Every column of it is one of the table, or one that its overlay opens to callers. -/
theorem ofPayload_bounds (h : ofPayload t n mode now payload = .ok r) :
    (r.contains t.primaryKey = true ↔ t.Generates mode t.primaryKey) ∧
    (∀ column, n.covers column = true → (r.contains column = true ↔ t.Generates mode column)) ∧
    (∀ column, r.contains column = true → column ∈ t.columns ∨ column ∈ t.writable) := by
  refine ⟨?_, ?_, ?_⟩
  · rw [contains_ofPayload_iff h, or_iff_right]
    rintro ⟨field, -, htarget⟩
    exact (target?_eq_some_iff.1 htarget).2.2.2.1 rfl
  · intro column hcovers
    rw [contains_ofPayload_iff h, or_iff_right]
    rintro ⟨field, -, htarget⟩
    have hfree := (target?_eq_some_iff.1 htarget).2.2.2.2
    rw [hcovers] at hfree
    cases hfree
  · intro column hcolumn
    rcases (contains_ofPayload_iff h).1 hcolumn with ⟨field, -, htarget⟩ | hgenerated
    · have hopened := (target?_eq_some_iff.1 htarget).2.2.1
      rw [Table.opened] at hopened
      split at hopened
      · exact .inl hopened
      · exact .inr hopened
    · exact .inl hgenerated.2.1

/-- A field that reaches a column by an outside name, one that names the key and one that names the
tenant column: the first is written, beside the time of the change. -/
theorem ofPayload_bounds_alias :
    let t : Table :=
      { schema := "public", name := "notes", primaryKey := "id"
        columns := ["id", "title", "company_id", "created_at", "updated_at"]
        aliases := .singleton "name" "title", timestamps := true }
    let payload : List (String × Json) :=
      [("company_id", .string "7"), ("id", .string "3"), ("name", .string "a")]
    ∃ r, ofPayload t .default .update ⟨0, 0, 0⟩ payload = .ok r ∧
      r.keys = ["title", "updated_at"] ∧
      (r.contains "id" = true ↔ t.Generates .update "id") ∧
      (∀ column, TenantNaming.default.covers column = true →
        (r.contains column = true ↔ t.Generates .update column)) ∧
      (∀ column, r.contains column = true → column ∈ t.columns ∨ column ∈ t.writable) := by
  intro t payload
  let r : Record := .ofList [("title", .text "a"), ("updated_at", .timestamp ⟨0, 0, 0⟩)]
  have h : ofPayload t .default .update ⟨0, 0, 0⟩ payload = .ok r := by decide +kernel
  exact ⟨r, h, by decide +kernel, ofPayload_bounds h⟩

/-- An overlay can open a column that its table lacks, and a field for it is then written; another
can make the time of the last change the key, and that time is then put into the key. -/
theorem ofPayload_beyond_columns :
    let listed : List ListedColumn :=
      [⟨"id", "bigint", "", ""⟩, ⟨"name", "text", "", ""⟩,
        ⟨"created_at", "date", "", ""⟩, ⟨"updated_at", "date", "", ""⟩]
    let t : Table :=
      { schema := "public", name := "notes", primaryKey := "id"
        columns := ["id", "name", "created_at", "updated_at"]
        kinds := .ofList
          [("id", .int), ("name", .string), ("created_at", .datetime), ("updated_at", .datetime)]
        catalogTypes := .ofList
          [("id", "bigint"), ("name", "text"), ("created_at", "date"), ("updated_at", "date")]
        timestamps := true }
    let opening := (Overlay.parse "timestamps=no\nfillable=name,ghost").layOn t
    let keying := (Overlay.parse "primary_key=updated_at").layOn t
    Table.ofCatalog "public" "notes" listed (some "id") = .ok t ∧
    (∃ r, ofPayload opening .default .insert ⟨0, 0, 0⟩ [("ghost", .string "y")] = .ok r ∧
      r.contains "ghost" = true ∧ "ghost" ∉ opening.columns) ∧
    (∃ r, ofPayload keying .default .update ⟨0, 0, 0⟩ [("name", .string "x")] = .ok r ∧
      r.contains keying.primaryKey = true) := by
  intro listed t opening keying
  refine ⟨by decide +kernel, ⟨.ofList [("ghost", .text "y")], ?_⟩,
    ⟨.ofList [("name", .text "x"), ("updated_at", .timestamp ⟨0, 0, 0⟩)], ?_⟩⟩
  · decide +kernel
  · decide +kernel

end Record
end TenantGate
