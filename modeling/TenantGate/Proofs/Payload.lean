import TenantGate.Proofs.Record
/-!
# What a payload makes

`ofPayload_makes` says of every payload what is made of it. The fields that count are taken in key
order. If one of them cannot be coerced, the payload is refused, with the last cause for every
column that has one; if there are none, it is refused as a whole; and otherwise the record holds in
every column the value of the last field for it, except where a time is generated.
-/

namespace TenantGate.Record

open Sql

variable {t : Table} {n : TenantNaming} {mode : WriteMode} {now : Timestamp} {column : String}

/-! ### Fields that count

A field that does not count is passed over without a word. For one that counts there are two
outcomes, a value and a cause, and for each column the outcomes of its fields are collected in the
order of the fields. -/

/-- The field has a name, and the column that the name reaches is one that callers may write. -/
def Counts (t : Table) (n : TenantNaming) (field : String × Json) : Prop :=
  Text.trim field.1 ≠ "" ∧ t.resolve field.1 ∈ t.opened ∧ t.resolve field.1 ≠ t.primaryKey ∧
    n.covers (t.resolve field.1) = false

instance (t : Table) (n : TenantNaming) (field : String × Json) : Decidable (Counts t n field) :=
  inferInstanceAs (Decidable (_ ∧ _ ∧ _ ∧ _))

/-- The fields that count, in their order. -/
def counting (t : Table) (n : TenantNaming) (payload : List (String × Json)) :
    List (String × Json) :=
  payload.filter (Counts t n)

/-- The value of a field, coerced for the column that it reaches. -/
def coerced (t : Table) (field : String × Json) : Except CoercionFailure Value :=
  coerce (t.kindOf? (t.resolve field.1)) field.2

/-- The value that a field gives to a column. -/
def valueFor? (t : Table) (column : String) (field : String × Json) : Option Value :=
  if t.resolve field.1 = column then (coerced t field).toOption else none

/-- The cause for which a field gives no value to the column that it reaches. -/
def causeFor? (t : Table) (column : String) (field : String × Json) : Option CoercionFailure :=
  if t.resolve field.1 = column then
    match coerced t field with
    | .ok _ => none
    | .error cause => some cause
  else none

/-- The values that fields give to a column, in order. -/
def valuesFor (t : Table) (column : String) (fields : List (String × Json)) : List Value :=
  fields.filterMap (valueFor? t column)

/-- The causes for which fields do not give a value to a column, in order. -/
def causesFor (t : Table) (column : String) (fields : List (String × Json)) :
    List CoercionFailure :=
  fields.filterMap (causeFor? t column)

/-- A field is written somewhere exactly if it counts. -/
theorem target?_eq {field : String × Json} :
    target? t n field.1 = if Counts t n field then some (t.resolve field.1) else none := by
  split
  next h => exact target?_eq_some_iff.2 ⟨h.1, rfl, h.2⟩
  next h =>
    rw [Option.eq_none_iff_forall_not_mem]
    intro column hcolumn
    obtain ⟨hname, rfl, hopen⟩ := target?_eq_some_iff.1 hcolumn
    exact h ⟨hname, hopen⟩

/-! ### Reading the fields

Fields are read one after the other into a draft. Values and failures are both kept by column, and
in both the later one stays; `foldl_take_eq` says this once for either. -/

/-- What a field that counts adds. -/
def Draft.take (t : Table) (d : Draft) (field : String × Json) : Draft :=
  match coerced t field with
  | .ok v => { d with values := d.values.insert (t.resolve field.1) v }
  | .error cause => { d with failures := d.failures.insert (t.resolve field.1) (.coercion cause) }

theorem Draft.add_eq (d : Draft) (field : String × Json) :
    d.add t n field = if Counts t n field then d.take t field else d := by
  rw [add, target?_eq]
  by_cases h : Counts t n field
  · rw [if_pos h, if_pos h]
    rfl
  · rw [if_neg h, if_neg h]

/-- Only the fields that count are taken. -/
theorem foldl_add_eq (payload : List (String × Json)) (d : Draft) :
    payload.foldl (Draft.add t n) d = (counting t n payload).foldl (Draft.take t) d := by
  have hadd : Draft.add t n = fun d f => if Counts t n f then d.take t f else d := by
    funext d f
    exact d.add_eq f
  rw [counting, List.foldl_filter, hadd]
  simp only [decide_eq_true_eq]

/-- What is read of a draft is the last that the fields give, or what was there before them, if it
is so for one field. -/
theorem foldl_take_eq {γ : Type} (held : Draft → Option γ) {given : String × Json → Option γ}
    (hstep : ∀ d f, held (Draft.take t d f) = (given f).or (held d))
    (fields : List (String × Json)) (d : Draft) :
    held (fields.foldl (Draft.take t) d) = (fields.filterMap given).getLast?.or (held d) := by
  -- The induction is on the fields; of all that give something the last one counts.
  induction fields generalizing d with
  | nil => rfl
  | cons f fields ih =>
    rw [List.foldl_cons, ih, hstep, ← Option.or_assoc]
    cases hgiven : given f with
    | none => rw [List.filterMap_cons_none hgiven, Option.or_none]
    | some x => rw [List.filterMap_cons_some hgiven, List.getLast?_cons, Option.or_some]

/-- One field changes one column's value, if it is coerced. -/
theorem get?_values_take (d : Draft) (f : String × Json) :
    (d.take t f).values.get? column = (valueFor? t column f).or (d.values.get? column) := by
  unfold Draft.take valueFor?
  by_cases hcolumn : t.resolve f.1 = column
  · cases coerced t f <;> simp [hcolumn, Except.toOption]
  · cases coerced t f <;> simp [hcolumn, Dict.get?_insert, Ne.symm hcolumn]

/-- One field changes one column's failure, if it is not coerced. -/
theorem get?_failures_take (d : Draft) (f : String × Json) :
    (d.take t f).failures.get? column =
      ((causeFor? t column f).map .coercion).or (d.failures.get? column) := by
  unfold Draft.take causeFor?
  by_cases hcolumn : t.resolve f.1 = column
  · cases coerced t f <;> simp [hcolumn]
  · cases coerced t f <;> simp [hcolumn, Dict.get?_insert, Ne.symm hcolumn]

/-- The values read are the last for each column, over those that were there. -/
theorem get?_values_foldl (fields : List (String × Json)) (d : Draft) :
    (fields.foldl (Draft.take t) d).values.get? column =
      (valuesFor t column fields).getLast?.or (d.values.get? column) :=
  foldl_take_eq (fun d => d.values.get? column) (fun d f => get?_values_take d f) fields d

theorem get?_failures_foldl (fields : List (String × Json)) (d : Draft) :
    (fields.foldl (Draft.take t) d).failures.get? column =
      ((causesFor t column fields).getLast?.map .coercion).or (d.failures.get? column) := by
  rw [causesFor, ← List.getLast?_map, List.map_filterMap]
  exact foldl_take_eq (fun d => d.failures.get? column) (fun d f => get?_failures_take d f)
    fields d

/-! ### Generated times

Times are put in after the fields were read, so they may meet a value there. -/

/-- A time is put over whatever the column holds, if the table has the column. -/
theorem get?_stamp (r : Record) (stamped : String) :
    (stamp t now stamped r).get? column =
      if column = stamped ∧ column ∈ t.columns then some (.timestamp now) else r.get? column := by
  by_cases hcolumn : column = stamped
  · subst hcolumn
    simp only [stamp, Table.hasColumn_iff, true_and]
    by_cases hheld : column ∈ t.columns
    · rw [if_pos hheld, if_pos hheld, Dict.get?_insert_self]
    · rw [if_neg hheld, if_neg hheld]
  · rw [if_neg fun h => hcolumn h.1, stamp]
    by_cases hheld : t.hasColumn stamped = true
    · rw [if_pos hheld, Dict.get?_insert, if_neg hcolumn]
    · rw [if_neg hheld]

/-- A time is put where nothing is. -/
theorem get?_stampMissing (r : Record) (stamped : String) :
    (stampMissing t now stamped r).get? column =
      if column = stamped ∧ column ∈ t.columns ∧ r.get? column = none then some (.timestamp now)
      else r.get? column := by
  unfold stampMissing
  split
  next hpresent =>
    rw [if_neg]
    rintro ⟨rfl, -, hnone⟩
    rw [Dict.contains, hnone] at hpresent
    cases hpresent
  next hmissing =>
    have hnone : r.get? stamped = none := by simpa [Dict.contains] using hmissing
    rw [get?_stamp]
    refine if_congr ?_ rfl rfl
    constructor
    · rintro ⟨rfl, hheld⟩
      exact ⟨rfl, hheld, hnone⟩
    · rintro ⟨heq, hheld, -⟩
      exact ⟨heq, hheld⟩

/-- A time is put into the columns for it that the table has, in a new row only where nothing is
there. -/
theorem get?_addTimes (r : Record) :
    (addTimes t mode now r).get? column =
      if column ∈ t.columns ∧
          (column = Table.updatedAt ∨ mode = .insert ∧ column = Table.createdAt) ∧
          (mode = .insert → r.get? column = none) then some (.timestamp now)
      else r.get? column := by
  -- a new row has both times, where they are missing; a change has the second one, over what is
  -- there
  cases mode with
  | insert =>
    have hother : Table.createdAt ≠ Table.updatedAt := by decide
    rw [addTimes, get?_stampMissing, get?_stampMissing]
    by_cases hcreated : column = Table.createdAt
    · subst hcreated
      simp [hother]
    · simp only [hcreated, false_and, if_false]
      refine if_congr ?_ rfl rfl
      simp [and_left_comm]
  | update =>
    rw [addTimes, get?_stamp]
    refine if_congr ?_ rfl rfl
    simp [and_comm]

/-! ### Payloads

A draft without failures becomes a record. What a draft holds is known from the fields, so the three
outcomes are told apart by the fields alone. -/

/-- A value for a column is that of one of its fields. -/
theorem mem_valuesFor {fields : List (String × Json)} {v : Value} :
    v ∈ valuesFor t column fields ↔
      ∃ f ∈ fields, t.resolve f.1 = column ∧ coerced t f = .ok v := by
  rw [valuesFor, List.mem_filterMap]
  refine exists_congr fun f => and_congr_right fun _ => ?_
  simp [valueFor?, toOption_eq_some_iff]

theorem mem_causesFor {fields : List (String × Json)} {cause : CoercionFailure} :
    cause ∈ causesFor t column fields ↔
      ∃ f ∈ fields, t.resolve f.1 = column ∧ coerced t f = .error cause := by
  rw [causesFor, List.mem_filterMap]
  refine exists_congr fun f => and_congr_right fun _ => ?_
  cases hcoerced : coerced t f <;> simp [causeFor?, hcoerced]

/-- There is no failure exactly if every field is coerced. -/
theorem isEmpty_failures_iff {fields : List (String × Json)} :
    (fields.foldl (Draft.take t) {}).failures.isEmpty = true ↔
      ∀ f ∈ fields, ∃ v, coerced t f = .ok v := by
  simp only [Dict.isEmpty_iff, get?_failures_foldl, Dict.get?_empty, Option.or_none,
    Option.map_eq_none_iff, List.getLast?_eq_none_iff]
  constructor
  · intro hnone f hf
    cases hcoerced : coerced t f with
    | ok v => exact ⟨v, rfl⟩
    | error cause =>
      have hmem : cause ∈ causesFor t (t.resolve f.1) fields :=
        mem_causesFor.2 ⟨f, hf, rfl, hcoerced⟩
      rw [hnone] at hmem
      cases hmem
  · intro hall column
    refine List.eq_nil_iff_forall_not_mem.2 fun cause hmem => ?_
    obtain ⟨f, hf, -, hcoerced⟩ := mem_causesFor.1 hmem
    obtain ⟨v, hv⟩ := hall f hf
    rw [hv] at hcoerced
    cases hcoerced

/-- Where every field is coerced, there is a value exactly if there is a field. -/
theorem isEmpty_values_iff {fields : List (String × Json)}
    (hall : ∀ f ∈ fields, ∃ v, coerced t f = .ok v) :
    (fields.foldl (Draft.take t) {}).values.isEmpty = true ↔ fields = [] := by
  simp only [Dict.isEmpty_iff, get?_values_foldl, Dict.get?_empty, Option.or_none,
    List.getLast?_eq_none_iff]
  constructor
  · intro hnone
    refine List.eq_nil_iff_forall_not_mem.2 fun f hf => ?_
    obtain ⟨v, hv⟩ := hall f hf
    have hmem : v ∈ valuesFor t (t.resolve f.1) fields := mem_valuesFor.2 ⟨f, hf, rfl, hv⟩
    rw [hnone] at hmem
    cases hmem
  · rintro rfl column
    rfl

instance (t : Table) (mode : WriteMode) (column : String) :
    Decidable (t.Generates mode column) :=
  inferInstanceAs (Decidable (_ ∧ _ ∧ (_ ∨ _ ∧ _)))

variable {payload : List (String × Json)}

/-- Fields that are not coerced are reported by their columns, with the last cause of each. -/
theorem exists_failures_of_coerced {f : String × Json} {cause : CoercionFailure}
    (hf : f ∈ counting t n payload) (hcause : coerced t f = .error cause) :
    ∃ failures, ofPayload t n mode now payload = .error (.validation failures) ∧
      ∀ column, failures.get? column =
        (causesFor t column (counting t n payload)).getLast?.map .coercion := by
  have hfailed : ((counting t n payload).foldl (Draft.take t) {}).failures.isEmpty = false := by
    rw [← Bool.not_eq_true, isEmpty_failures_iff]
    intro hall
    obtain ⟨v, hv⟩ := hall f hf
    rw [hv] at hcause
    cases hcause
  refine ⟨((counting t n payload).foldl (Draft.take t) {}).failures, ?_, ?_⟩
  · rw [ofPayload, foldl_add_eq]
    simp [hfailed]
  · intro column
    rw [get?_failures_foldl, Dict.get?_empty, Option.or_none]

/-- If no field counts, the payload is refused as a whole. -/
theorem ofPayload_of_counting_eq_nil (h : counting t n payload = []) :
    ofPayload t n mode now payload = .error (.field "payload" .nothingWritable) := by
  rw [ofPayload, foldl_add_eq, h]
  rfl

/-- The record holds the last value of every column, and the time where one is generated: on a
change over what is there, and in a new row where nothing is. -/
theorem exists_record_of_coerced (hall : ∀ f ∈ counting t n payload, ∃ v, coerced t f = .ok v)
    (hne : counting t n payload ≠ []) :
    ∃ r, ofPayload t n mode now payload = .ok r ∧
      ∀ column, r.get? column =
        if t.Generates mode column ∧
            (mode = .insert → valuesFor t column (counting t n payload) = []) then
          some (.timestamp (t.clock.read now))
        else (valuesFor t column (counting t n payload)).getLast? := by
  have hread : ((counting t n payload).foldl (Draft.take t) {}).failures.isEmpty = true :=
    isEmpty_failures_iff.2 hall
  have hsome : ((counting t n payload).foldl (Draft.take t) {}).values.isEmpty = false := by
    rw [← Bool.not_eq_true, isEmpty_values_iff hall]
    exact hne
  have hlast (column : String) :
      ((counting t n payload).foldl (Draft.take t) {}).values.get? column =
        (valuesFor t column (counting t n payload)).getLast? := by
    rw [get?_values_foldl, Dict.get?_empty, Option.or_none]
  rw [ofPayload, foldl_add_eq]
  simp only [hread, hsome, Bool.not_true, Bool.false_eq_true, if_false, Except.ok.injEq,
    exists_eq_left']
  intro column
  -- only a table with times gets any
  by_cases htimes : t.timestamps = true
  · rw [if_pos htimes, get?_addTimes, hlast]
    refine if_congr ?_ rfl rfl
    rw [Table.Generates]
    simp [htimes, and_assoc]
  · rw [if_neg htimes, hlast, if_neg fun h => htimes h.1.1]

/-- What a payload makes: a failure for each column that a field cannot be coerced for, a failure of
the whole if no field counts, and otherwise the record of the last values and generated times. -/
theorem ofPayload_makes (t : Table) (n : TenantNaming) (mode : WriteMode) (now : Timestamp)
    (payload : List (String × Json)) :
    let fields := counting t n payload
    ((∃ f ∈ fields, ∃ cause, coerced t f = .error cause) →
      ∃ failures, ofPayload t n mode now payload = .error (.validation failures) ∧
        ∀ column, failures.get? column = (causesFor t column fields).getLast?.map .coercion) ∧
    (fields = [] →
      ofPayload t n mode now payload = .error (.field "payload" .nothingWritable)) ∧
    ((∀ f ∈ fields, ∃ v, coerced t f = .ok v) → fields ≠ [] →
      ∃ r, ofPayload t n mode now payload = .ok r ∧
        ∀ column, r.get? column =
          if t.Generates mode column ∧ (mode = .insert → valuesFor t column fields = []) then
            some (.timestamp (t.clock.read now))
          else (valuesFor t column fields).getLast?) := by
  intro fields
  refine ⟨?_, ofPayload_of_counting_eq_nil, exists_record_of_coerced⟩
  rintro ⟨f, hf, cause, hcause⟩
  exact exists_failures_of_coerced hf hcause

/-- Three fields for one column, the last of them by an outside name, and a time that the caller
gives: on a change it is replaced. -/
theorem ofPayload_makes_last :
    let t : Table :=
      { schema := "public", name := "notes", primaryKey := "id"
        columns := ["id", "title", "updated_at", "company_id"]
        aliases := .singleton "zz" "title", timestamps := true }
    let payload : List (String × Json) :=
      [(" title", .string "a"), ("company_id", .string "7"), ("title", .string "b"),
        ("updated_at", .string "c"), ("zz", .string "d")]
    ∃ r, ofPayload t .default .update ⟨0, 0, 0⟩ payload = .ok r ∧
      r.get? "title" = some (.text "d") ∧ r.get? "updated_at" = some (.timestamp ⟨0, 0, 0⟩) ∧
      r.get? "company_id" = none := by
  intro t payload
  have hall : ∀ f ∈ counting t .default payload, ∃ v, coerced t f = .ok v := by
    intro f hf
    exact ⟨_, rfl⟩
  obtain ⟨r, hr, hget⟩ :=
    (ofPayload_makes t .default .update ⟨0, 0, 0⟩ payload).2.2 hall (by decide +kernel)
  refine ⟨r, hr, ?_, ?_, ?_⟩
  · rw [hget]
    decide +kernel
  · rw [hget]
    decide +kernel
  · rw [hget]
    decide +kernel

end TenantGate.Record
