import TenantGate.Proofs.Query.Plan
import TenantGate.Proofs.Sql.Writing
/-!
# Planned queries and their tenant

A planned query asks, with `AND` between them, first for the tenant in every bound table that has a
tenant column and then for what the expression asks (`plan_conjoins`). The base table is always
among them: without a tenant column there, nothing is planned.
-/

namespace TenantGate

open Sql

/-! ### Conjunctions in the text

A condition that binds a value takes one number. So where all of them do, each is written with the
number of its place, and the values stand in the order of the conditions. -/

namespace Sql

/-- The query has these conditions, with `AND` between them, for its `WHERE` clause: in its text,
which is given in full, each condition is written with the number of its place among them, and what
the `i`-th of them binds is the `i`-th parameter, before the values of the extent. -/
structure Query.Conjoins (q : Query) (cs : List Condition) : Prop where
  text : (Statement.select q).text =
    "SELECT " ++ ", ".intercalate (q.outputs.map Output.written) ++ " FROM " ++ q.table.written ++
      aliasWritten q.aliasName ++ String.join (q.joins.map Join.written) ++ " WHERE " ++
      " AND ".intercalate (cs.mapIdx fun i c => c.written (i + 1)) ++
      orderWritten q.order ++ q.extent.written cs.length
  bound : ∀ (i : Nat) c, cs[i]? = some c →
    ∃ v, c.value? = some v ∧ (Statement.select q).parameters[i]? = some v
  rest : (Statement.select q).parameters.drop cs.length = q.extent.values

/-- Where every condition binds a value, the number of a condition is its place. -/
theorem numbered_eq_mapIdx (n : Nat) {cs : List Condition}
    (h : ∀ c ∈ cs, c.value?.isSome = true) : numbered n cs = cs.mapIdx fun i c => (n + i, c) := by
  induction cs generalizing n with
  | nil => rfl
  | cons c cs ih =>
    obtain ⟨v, hv⟩ := Option.isSome_iff_exists.1 (h c List.mem_cons_self)
    rw [numbered, ih _ fun c hc => h c (List.mem_cons_of_mem _ hc), List.mapIdx_cons, hv]
    simp [Nat.add_assoc, Nat.add_comm 1]

theorem length_valuesOf {cs : List Condition} (h : ∀ c ∈ cs, c.value?.isSome = true) :
    (valuesOf cs).length = cs.length := by
  induction cs with
  | nil => rfl
  | cons c cs ih =>
    obtain ⟨v, hv⟩ := Option.isSome_iff_exists.1 (h c List.mem_cons_self)
    rw [valuesOf_cons, List.length_append, ih fun c hc => h c (List.mem_cons_of_mem _ hc), hv]
    exact Nat.add_comm _ _

/-- A query without alternatives whose conditions all bind values is a conjunction. -/
theorem Query.conjoins {q : Query} {cs : List Condition} (hfilter : q.filter = ⟨cs, []⟩)
    (h : ∀ c ∈ cs, c.value?.isSome = true) : q.Conjoins cs := by
  have hclause : q.filter.written 0 =
      " AND ".intercalate (cs.mapIdx fun i c => c.written (i + 1)) := by
    rw [hfilter, Filter.written, List.isEmpty_nil, if_pos rfl, List.append_nil, writtenAfter,
      numbered_eq_mapIdx 0 h]
    exact congrArg _ (List.ext_getElem? fun i => by simp [Function.comp_def])
  have hvalues : q.filter.values = valuesOf cs := by
    rw [hfilter, Filter.values, List.append_nil]
  refine ⟨?_, fun i c hc => ?_, ?_⟩
  · rw [Statement.text_select, written, hclause, hvalues, length_valuesOf h]
  · obtain ⟨v, hv⟩ := Option.isSome_iff_exists.1 (h c (List.mem_of_getElem? hc))
    have hnumbered : (i, c) ∈ numbered 0 cs := by
      rw [numbered_eq_mapIdx 0 h]
      exact List.mem_of_getElem? (i := i) (by simp [hc])
    refine ⟨v, hv, ?_⟩
    rw [Statement.parameters_select, values, hvalues]
    exact getElem?_valuesOf hnumbered hv _
  · rw [Statement.parameters_select, values, hvalues, ← length_valuesOf h, List.drop_left]

end Sql

/-! ### Plans

The conditions of a plan are comparisons and patterns, for tenants and for the expression alike.
None of them asks for a null, so all of them bind a value. -/

namespace Query

variable {columns : TenantNaming} {tenant : Tenant} {bound : List BoundTable} {baseAlias : String}

/-- A condition that holds a table to a tenant binds the tenant's value. -/
theorem Holds.value? {cs : List Condition} (h : Holds columns tenant bound cs) :
    ∀ c ∈ cs, c.value?.isSome = true := by
  induction h with
  | nil => simp
  | held hcolumn hvalue rest ih =>
    intro c hc
    rcases List.mem_cons.1 hc with rfl | hc
    · rfl
    · exact ih c hc
  | shared hnone rest ih => exact ih

/-- A condition of the expression binds its value. -/
theorem Asks.value? {w : WhereClause} {c : Condition} (h : Asks bound baseAlias w c) :
    c.value?.isSome = true := by
  obtain ⟨r, -, hasked⟩ := h
  split at hasked
  · rw [hasked]
    rfl
  · obtain ⟨v, -, rfl⟩ := hasked
    rfl

/-- Over a base table without a tenant column nothing is planned. -/
theorem exists_error_of_not_mem {e : Expression} {tables : Dict Table} {t : Table}
    (ht : tables.get? e.base.table = some t) (hpreferred : columns.preferred ∉ t.columns)
    (hlegacy : ∀ l, columns.legacy = some l → l ∉ t.columns) :
    ∃ f, plan e tenant tables columns = .error f := by
  cases hplan : plan e tenant tables columns with
  | error f => exact ⟨f, rfl⟩
  | ok q =>
    obtain ⟨base, joined, -, -, -, -, -, hbase, -, -, ⟨column, hcolumn⟩, -⟩ :=
      plan_eq_ok_iff.1 hplan
    obtain rfl : t = base.table := Option.some.inj (ht.symm.trans hbase.table)
    obtain ⟨hheld, rfl | ⟨-, hl⟩⟩ := hcolumn
    · exact absurd hheld hpreferred
    · exact absurd hheld (hlegacy column hl)

/-- A planned query is a conjunction: of the tenant's conditions, one for each bound table with a
tenant column and in the order of the tables, and of the conditions of the expression, in theirs.
The base table has a tenant column, and where it has none there is no plan. -/
theorem plan_conjoins (e : Expression) (tenant : Tenant) (tables : Dict Table)
    (columns : TenantNaming) :
    (∀ q, plan e tenant tables columns = .ok q →
      ∃ base joined tenants wheres,
        Binds tables e.base base ∧
        List.Forall₂ (fun j b => Binds tables j.target b) e.joins joined ∧
        (aliases (base :: joined)).Nodup ∧
        (∃ column, columns.IsColumnOf base.table column) ∧
        Holds columns tenant (base :: joined) tenants ∧
        List.Forall₂ (Asks (base :: joined) base.aliasName) e.wheres wheres ∧
        q.filter = ⟨tenants ++ wheres, []⟩ ∧
        q.Conjoins (tenants ++ wheres)) ∧
    (∀ t, tables.get? e.base.table = some t → columns.preferred ∉ t.columns →
      (∀ l, columns.legacy = some l → l ∉ t.columns) →
      ∃ f, plan e tenant tables columns = .error f) := by
  constructor
  · intro q hq
    obtain ⟨base, joined, tenants, outs, joins, wheres, order, hbase, hjoined, hnodup, hcolumn,
      htenants, -, -, hwheres, -, rfl⟩ := plan_eq_ok_iff.1 hq
    refine ⟨base, joined, tenants, wheres, hbase, hjoined, hnodup, hcolumn, htenants, hwheres, rfl,
      Query.conjoins rfl fun c hc => ?_⟩
    rcases List.mem_append.1 hc with hc | hc
    · exact htenants.value? c hc
    · obtain ⟨w, -, hw⟩ := exists_of_forall₂ hwheres hc
      exact hw.value?
  · intro t ht hpreferred hlegacy
    exact exists_error_of_not_mem ht hpreferred hlegacy

/-- Three tables, of which the first has the preferred tenant column, the second none and the third
the one for older tables: the tenant is asked for twice, and then what the expression asks. -/
theorem plan_conjoins_three :
    let a : Table :=
      { schema := "public", name := "notes", primaryKey := "id"
        columns := ["id", "unit_id", "company_id"] }
    let b : Table :=
      { schema := "public", name := "units", primaryKey := "id", columns := ["id", "name"] }
    let c : Table :=
      { schema := "public", name := "menus", primaryKey := "id", columns := ["id", "com_id"]
        kinds := .singleton "com_id" .int }
    let tables : Dict Table := .ofList [("notes", a), ("units", b), ("menus", c)]
    let id (s : String) : NamedColumn := ⟨some s, "id", s ++ ".id"⟩
    let e : Expression :=
      { base := ⟨"notes", "n"⟩
        joins := [⟨⟨"units", "u"⟩, id "u", id "n"⟩, ⟨⟨"menus", "m"⟩, id "m", id "n"⟩]
        wheres := [⟨id "n", .compare .atLeast, .int 5⟩] }
    let tenant : Tenant := ⟨"10", by decide +kernel, by decide⟩
    let conditions : List Condition :=
      [.compare ⟨some "n", "company_id"⟩ .equal ⟨.text "10", none⟩,
        .compare ⟨some "m", "com_id"⟩ .equal ⟨.int 10, none⟩,
        .compare ⟨some "n", "id"⟩ .atLeast ⟨.int 5, none⟩]
    ∃ q, plan e tenant tables .default = .ok q ∧ q.filter = ⟨conditions, []⟩ ∧
      q.Conjoins conditions := by
  intro a b c tables id e tenant conditions
  have hfilter :
      (plan e tenant tables .default).toOption.map (·.filter) = some ⟨conditions, []⟩ := by
    decide +kernel
  obtain ⟨q, hq, hfilter⟩ := Option.map_eq_some_iff.1 hfilter
  have hplan := toOption_eq_some_iff.1 hq
  obtain ⟨base, joined, tenants, wheres, -, -, -, -, -, -, hall, hconjoins⟩ :=
    (plan_conjoins e tenant tables .default).1 q hplan
  obtain hall : tenants ++ wheres = conditions := by
    rw [hall] at hfilter
    exact congrArg Filter.all hfilter
  exact ⟨q, hplan, hfilter, hall ▸ hconjoins⟩

end Query
end TenantGate
