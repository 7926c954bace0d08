import TenantGate.Proofs.Emission
import TenantGate.Proofs.Page.Filters
import TenantGate.Proofs.Sql.Placeholder
/-!
# Values beside their columns

Every statement that is made `Shows` a text and values: the placeholders of the text count from one
to the number of the values, and each stands beside the column that its value is meant for. For the
statements on a row the text is given in full; the conditions of a page and of a query expression
are those that the request asks for, each written with the number of its value
(`Filter.IsPlaced`). `shows_of_plain_types` puts this together for all statements.
-/

namespace TenantGate

open Sql

/-! ### Statements and values

A statement is a text with a list of values. The text is given without the values, and the values
without the text; what ties them together is the number of each placeholder. -/

namespace Sql

/-- The text of the statement, in which the placeholders count from one, and the values that they
are bound to. -/
structure Statement.Shows (s : Statement) (text : String) (values : List Value) : Prop where
  text : s.text = text
  parameters : s.parameters = values
  numbered : s.IsNumbered

/-- The value of a condition stands among the values where the condition is numbered. -/
def Filter.IsPlaced (f : Filter) (values : List Value) : Prop :=
  ∀ k c v, (k, c) ∈ numbered 0 (f.all ++ f.any) → c.value? = some v → values[k]? = some v

/-- The values of a filter come first among those of its statement. -/
theorem Filter.isPlaced (f : Filter) (rest : List Value) : f.IsPlaced (f.values ++ rest) :=
  fun _ _ _ hc hv => getElem?_valuesOf hc hv rest

theorem mapIdx_map {α β γ : Type} (f : α → β) (g : Nat → β → γ) (l : List α) :
    (l.map f).mapIdx g = l.mapIdx fun i a => g i (f a) := by
  refine List.ext_getElem? fun i => ?_
  simp [Function.comp_def]

end Sql

/-! ### Rows

The texts of the four statements on a row, written out. Conditions on a row have two values, and in
an update those of the assignments come before them. -/

namespace Table

variable (t : Table) (scope : Scope) (key : Value) (r : Record)

/-- No type of a parameter has a dollar sign outside quoted names. -/
def HasPlainTypes : Prop := ∀ column type, t.parameterType? column = some type → IsPlainType type

/-- `"column" = $n`, with the type of the column's parameters. -/
def equation (column : String) (n : Nat) : String :=
  quoteName column ++ " = " ++ placeholder n (t.parameterType? column)

/-- The conditions on a row, when `n` values are bound before them. -/
def rowEquations (n : Nat) : String :=
  t.equation scope.column (n + 1) ++ " AND " ++ t.equation t.primaryKey (n + 2)

/-- What an update assigns: the columns of the record but the key and the scope's. -/
def assigned : List (String × Value) :=
  r.entries.filter fun (column, _) => column ≠ t.primaryKey ∧ column ≠ scope.column

/-- The columns of the record side by side with their placeholders, or nothing but defaults. -/
def insertText : String :=
  "INSERT INTO " ++ t.sqlName.written ++
    (if r.isEmpty then " DEFAULT VALUES"
    else
      " (" ++ ", ".intercalate (r.keys.map quoteName) ++ ") VALUES (" ++
        ", ".intercalate (r.keys.mapIdx fun i column =>
          placeholder (i + 1) (t.parameterType? column)) ++
        ")") ++
    " RETURNING " ++ (t.output none t.primaryKey).written

def selectText : String :=
  "SELECT " ++ ", ".intercalate (t.columns.map fun column => (t.output none column).written) ++
    " FROM " ++ t.sqlName.written ++ " WHERE " ++ t.rowEquations scope 0 ++ " LIMIT 1"

/-- Each column that is assigned beside its placeholder, or the key where nothing is assigned. -/
def updateText : String :=
  if (t.assigned scope r).isEmpty then
    "SELECT " ++ quoteName t.primaryKey ++ " FROM " ++ t.sqlName.written ++ " WHERE " ++
      t.rowEquations scope 0
  else
    "UPDATE " ++ t.sqlName.written ++ " SET " ++
      ", ".intercalate ((t.assigned scope r).mapIdx fun i e => t.equation e.1 (i + 1)) ++
      " WHERE " ++ t.rowEquations scope (t.assigned scope r).length

def deleteText : String :=
  "DELETE FROM " ++ t.sqlName.written ++ " WHERE " ++ t.rowEquations scope 0

variable {t scope key r}

/-- The clause on a row, after `n` values. -/
theorem written_rowFilter (n : Nat) :
    (t.rowFilter scope key).written n = t.rowEquations scope n := by
  have hparts : writtenAfter n (t.rowFilter scope key).all =
      [t.equation scope.column (n + 1), t.equation t.primaryKey (n + 2)] := rfl
  have hwritten : (t.rowFilter scope key).written n =
      " AND ".intercalate [t.equation scope.column (n + 1), t.equation t.primaryKey (n + 2)] := by
    rw [Filter.written, hparts]
    rfl
  rw [hwritten, String.intercalate_cons_cons, String.intercalate_singleton]
  rfl

theorem values_rowFilter : (t.rowFilter scope key).values = [scope.value, key] := rfl

/-- Whatever a statement on the table is made from, its placeholders count from one, if no type of a
parameter brings in another. -/
theorem isNumbered_of_emits (ht : t.HasPlainTypes) {s : Statement} {columns : String → Prop}
    (h : Emits s (t.vocabulary columns)) : s.IsNumbered := by
  refine (fits_of_emits h).isNumbered ?_
  rintro type ⟨column, htype⟩
  exact ht column type htype

/-- An insertion lists the columns of the record, and binds the values of the record in their
order. -/
theorem shows_insertRow (ht : t.HasPlainTypes) :
    (t.insertRow r).Shows (t.insertText r) (r.entries.map Prod.snd) := by
  -- the text, the values, and the placeholders
  refine ⟨?_, ?_, isNumbered_of_emits ht (.insert t r)⟩
  · have hempty : (t.assignments r.entries).isEmpty = r.isEmpty := List.isEmpty_map
    rw [insertRow, Statement.text_insert, rowWritten, insertText, hempty]
    simp only [assignments, Dict.keys, List.map_map, mapIdx_map]
    rfl
  · rw [insertRow, Statement.parameters_insert, assignments, List.map_map]
    rfl

theorem shows_selectRow (ht : t.HasPlainTypes) :
    (t.selectRow scope key).Shows (t.selectText scope) [scope.value, key] := by
  refine ⟨?_, ?_, isNumbered_of_emits ht (.select t scope key)⟩
  · rw [selectRow, Statement.text_select, Query.written, written_rowFilter]
    simp [selectText, aliasWritten, String.join_nil, orderWritten, Extent.written,
      Function.comp_def]
  · rw [selectRow, Statement.parameters_select, Query.values, values_rowFilter]
    rfl

/-- An update that assigns nothing looks whether the row is there. -/
theorem updateRow_eq :
    t.updateRow scope key r =
      if (t.assigned scope r).isEmpty then
        .select { outputs := [⟨⟨none, t.primaryKey⟩, false, none⟩], table := t.sqlName
                  filter := t.rowFilter scope key }
      else .update t.sqlName (t.assignments (t.assigned scope r)) (t.rowFilter scope key) := rfl

/-- An update assigns the columns of the record but two, and binds their values before those of the
conditions. -/
theorem shows_updateRow (ht : t.HasPlainTypes) :
    (t.updateRow scope key r).Shows (t.updateText scope r)
      ((t.assigned scope r).map Prod.snd ++ [scope.value, key]) := by
  refine ⟨?_, ?_, isNumbered_of_emits ht (.update t scope key r)⟩
  · rw [updateRow_eq, updateText]
    -- with nothing to assign it is a query, and otherwise an update
    split
    · rw [Statement.text_select, Query.written, written_rowFilter]
      simp [aliasWritten, String.join_nil, orderWritten, Extent.written, Output.written,
        ColumnName.written]
    · rw [Statement.text_update, written_rowFilter]
      simp [assignments, bind, equation, mapIdx_map]
  · rw [updateRow_eq]
    split
    · next hempty =>
      rw [Statement.parameters_select, Query.values, values_rowFilter, List.isEmpty_iff.1 hempty]
      rfl
    · rw [Statement.parameters_update, values_rowFilter, assignments, List.map_map]
      rfl

theorem shows_deleteRow (ht : t.HasPlainTypes) :
    (t.deleteRow scope key).Shows (t.deleteText scope) [scope.value, key] := by
  refine ⟨?_, ?_, isNumbered_of_emits ht (.delete t scope key)⟩
  · rw [deleteRow, Statement.text_delete, written_rowFilter, deleteText]
  · rw [deleteRow, Statement.parameters_delete, values_rowFilter]

end Table

/-! ### Pages and query expressions

These texts depend on the request in more ways than can be written out. Their clauses are in
`Query.written`; here it is said which values go with them. -/

/-- The page has the values of its filter, and then the two of its window. -/
theorem Page.shows_page {t : Table} {scope : Scope} {r : Listing} {w : Window} {s : Statements}
    (ht : t.HasPlainTypes) (h : statements t scope r w = .ok s) :
    s.page.Shows s.rows.written (s.rows.filter.values ++ [.int w.limit, .int w.offset]) := by
  refine ⟨Statement.text_select _, ?_, Table.isNumbered_of_emits ht (.page h)⟩
  obtain ⟨columns, f, terms, -, -, -, rfl⟩ := statements_eq_ok_iff.1 h
  exact Statement.parameters_select _

/-- The count has the values of the same filter. -/
theorem Page.shows_total {t : Table} {scope : Scope} {r : Listing} {w : Window} {s : Statements}
    (ht : t.HasPlainTypes) (h : statements t scope r w = .ok s) :
    s.total.Shows
      ("SELECT COUNT(*) AS total FROM " ++ t.sqlName.written ++ " WHERE " ++
        s.rows.filter.written 0)
      s.rows.filter.values := by
  have hnumbered := Table.isNumbered_of_emits ht (.total h)
  obtain ⟨columns, f, terms, -, -, -, rfl⟩ := statements_eq_ok_iff.1 h
  exact ⟨Statement.text_count _ _, Statement.parameters_count _ _, hnumbered⟩

/-- A planned query has the values of its conditions, and then the limit, if it has one. -/
theorem Query.shows_plan {e : Expression} {tenant : Tenant} {tables : Dict Table}
    {columns : TenantNaming} {q : Sql.Query}
    (htables : ∀ name t, tables.get? name = some t → t.HasPlainTypes)
    (h : plan e tenant tables columns = .ok q) :
    (Statement.select q).Shows q.written (q.filter.values ++ q.extent.values) := by
  refine ⟨Statement.text_select _, Statement.parameters_select _, ?_⟩
  refine (fits_of_emits (.query h)).isNumbered ?_
  rintro type ⟨b, ⟨n, -, hb⟩, column, htype⟩
  exact htables n.table b.table hb.table column type htype

/-- In every statement that is made the placeholders count from one to the number of the values, and
each value is bound beside its column: those of a record beside the columns of the record, the
scope's value and the key after them, and the value of a condition beside the column of the
condition, where the conditions are those that the request asks for. -/
theorem shows_of_plain_types {t : Table} {tables : Dict Table} (ht : t.HasPlainTypes)
    (htables : ∀ name u, tables.get? name = some u → u.HasPlainTypes) :
    (∀ r, (t.insertRow r).Shows (t.insertText r) (r.entries.map Prod.snd)) ∧
    (∀ scope key, (t.selectRow scope key).Shows (t.selectText scope) [scope.value, key]) ∧
    (∀ scope key r, (t.updateRow scope key r).Shows (t.updateText scope r)
      ((t.assigned scope r).map Prod.snd ++ [scope.value, key])) ∧
    (∀ scope key, (t.deleteRow scope key).Shows (t.deleteText scope) [scope.value, key]) ∧
    (∀ scope r w s, Page.statements t scope r w = .ok s →
      (∃ all any, Page.AskedBy t r.equal r.like all ∧ Page.AskedBy t r.anyEqual r.anyLike any ∧
        s.rows.filter = ⟨t.equals scope.column scope.value :: all, any⟩) ∧
      s.page.Shows s.rows.written (s.rows.filter.values ++ [.int w.limit, .int w.offset]) ∧
      s.total.Shows
        ("SELECT COUNT(*) AS total FROM " ++ t.sqlName.written ++ " WHERE " ++
          s.rows.filter.written 0)
        s.rows.filter.values ∧
      s.rows.filter.IsPlaced s.page.parameters ∧ s.rows.filter.IsPlaced s.total.parameters) ∧
    (∀ e tenant columns q, Query.plan e tenant tables columns = .ok q →
      (∃ base joined tenants wheres, Query.Binds tables e.base base ∧
        List.Forall₂ (fun j b => Query.Binds tables j.target b) e.joins joined ∧
        Query.Holds columns tenant (base :: joined) tenants ∧
        List.Forall₂ (Query.Asks (base :: joined) base.aliasName) e.wheres wheres ∧
        q.filter = ⟨tenants ++ wheres, []⟩ ∧ q.extent = Query.extentOf e.limit) ∧
      (Statement.select q).Shows q.written (q.filter.values ++ q.extent.values) ∧
      q.filter.IsPlaced (Statement.select q).parameters) := by
  refine ⟨fun r => Table.shows_insertRow ht, fun scope key => Table.shows_selectRow ht,
    fun scope key r => Table.shows_updateRow ht, fun scope key => Table.shows_deleteRow ht, ?_, ?_⟩
  -- the page and the count share one filter, and with it the places of its values
  · intro scope r w s h
    have hpage := Page.shows_page ht h
    have htotal := Page.shows_total ht h
    refine ⟨Page.exists_askedBy_of_statements h, hpage, htotal, ?_, ?_⟩
    · rw [hpage.parameters]
      exact s.rows.filter.isPlaced _
    · rw [htotal.parameters, ← List.append_nil s.rows.filter.values]
      exact s.rows.filter.isPlaced []
  · intro e tenant columns q h
    have hplan := Query.shows_plan htables h
    refine ⟨?_, hplan, ?_⟩
    · obtain ⟨base, joined, tenants, outs, joins, wheres, order, hbase, hjoined, -, -, htenants, -,
        -, hwheres, -, rfl⟩ := Query.plan_eq_ok_iff.1 h
      exact ⟨base, joined, tenants, wheres, hbase, hjoined, htenants, hwheres, rfl, rfl⟩
    · rw [hplan.parameters]
      exact q.filter.isPlaced _

/-- A dollar sign in a name, and one in the quoted name of a type: neither is a placeholder. -/
theorem shows_of_plain_types_dollars :
    let t : Table :=
      { schema := "public", name := "notes", primaryKey := "id"
        columns := ["id", "cost$2", "kind", "company_id"]
        parameterTypes := .singleton "kind" (qualifiedName "app" "kind$1") }
    let scope : Scope := ⟨"company_id", .text "10"⟩
    let r : Record := .ofList [("company_id", .text "11"), ("cost$2", .int 5), ("kind", .text "a")]
    let s := t.updateRow scope (.int 7) r
    t.HasPlainTypes ∧
    s.text = "UPDATE \"public\".\"notes\" SET \"cost$2\" = $1, \"kind\" = " ++
      "$2::\"app\".\"kind$1\" WHERE \"company_id\" = $3 AND \"id\" = $4" ∧
    s.Shows (t.updateText scope r) [.int 5, .text "a", .text "10", .int 7] := by
  intro t scope r s
  have ht : t.HasPlainTypes := by
    intro column type htype
    have hentry : (column, type) ∈ t.parameterTypes.entries := Dict.mem_entries_iff.2 htype
    cases List.mem_singleton.1 hentry
    exact ⟨_, scan_pair "app" "kind$1", by simp⟩
  have htables : ∀ name u, (Dict.singleton "notes" t).get? name = some u → u.HasPlainTypes := by
    intro name u hu
    have hentry : (name, u) ∈ (Dict.singleton "notes" t).entries := Dict.mem_entries_iff.2 hu
    cases List.mem_singleton.1 hentry
    exact ht
  have hupdate := (shows_of_plain_types ht htables).2.2.1 scope (.int 7) r
  exact ⟨ht, by decide +kernel, hupdate⟩

end TenantGate
