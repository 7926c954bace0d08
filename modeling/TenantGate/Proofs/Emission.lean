import TenantGate.Proofs.Page.Statements
import TenantGate.Proofs.Query.Outputs
import TenantGate.Proofs.Sql.Layout
/-!
# Names in the statements that are sent

`Emits` lists the statements that are made for a table, a page and a query expression, each with the
vocabulary of what it is made from: the names of the tables concerned, the columns that they or the
record have, and plain identifiers as aliases. Whatever characters those names and the values hold,
the text of the statement is within that vocabulary (`isWithin_of_emits`).
-/

namespace TenantGate

open Sql

/-! ### Vocabularies

A vocabulary says which names a text may quote, which pairs of names may stand with a dot between
them, and what may be written as the type of a parameter. Here are those of the things that
statements are made from. -/

/-- The table, and columns that may be named; the only names with a dot between them are those of
the table itself. -/
def Table.vocabulary (t : Table) (columns : String → Prop) : Vocabulary where
  names x := x = t.schema ∨ x = t.name ∨ columns x
  pairs q x := q = t.schema ∧ x = t.name
  types type := ∃ column, t.parameterType? column = some type

/-- The tables of an expression as they are bound. -/
def Query.Expression.Binds (e : Query.Expression) (tables : Dict Table) (b : Query.BoundTable) :
    Prop :=
  ∃ n, (n = e.base ∨ ∃ j ∈ e.joins, n = j.target) ∧ Query.Binds tables n b

/-- The tables of an expression, their columns, their aliases, and a column after an alias. Two
names with a dot between them are a table, or a column of a table under its alias. -/
def Query.Expression.vocabulary (e : Query.Expression) (tables : Dict Table) : Vocabulary where
  names x := ∃ b, e.Binds tables b ∧ (x = b.table.schema ∨ x = b.table.name ∨ x = b.aliasName ∨
    ∃ column ∈ b.table.columns, x = column ∨ x = b.aliasName ++ "_" ++ column)
  pairs q x := ∃ b, e.Binds tables b ∧
    (q = b.table.schema ∧ x = b.table.name ∨ q = b.aliasName ∧ x ∈ b.table.columns)
  types type := ∃ b, e.Binds tables b ∧ ∃ column, b.table.parameterType? column = some type

/-- The statements that are made, and what each is made from. -/
inductive Emits : Statement → Vocabulary → Prop
  | insert (t : Table) (r : Record) :
      Emits (t.insertRow r) (t.vocabulary fun x => x = t.primaryKey ∨ r.contains x = true)
  | select (t : Table) (scope : Scope) (key : Value) :
      Emits (t.selectRow scope key)
        (t.vocabulary fun x => x = t.primaryKey ∨ x = scope.column ∨ x ∈ t.columns)
  | update (t : Table) (scope : Scope) (key : Value) (r : Record) :
      Emits (t.updateRow scope key r)
        (t.vocabulary fun x => x = t.primaryKey ∨ x = scope.column ∨ r.contains x = true)
  | delete (t : Table) (scope : Scope) (key : Value) :
      Emits (t.deleteRow scope key)
        (t.vocabulary fun x => x = t.primaryKey ∨ x = scope.column)
  | page {t : Table} {scope : Scope} {r : Listing} {w : Window} {s : Page.Statements}
      (h : Page.statements t scope r w = .ok s) :
      Emits s.page (t.vocabulary fun x => x = scope.column ∨ x ∈ t.columns)
  | total {t : Table} {scope : Scope} {r : Listing} {w : Window} {s : Page.Statements}
      (h : Page.statements t scope r w = .ok s) :
      Emits s.total (t.vocabulary fun x => x = scope.column ∨ x ∈ t.columns)
  | query {e : Query.Expression} {tenant : Tenant} {tables : Dict Table} {columns : TenantNaming}
      {q : Sql.Query} (h : Query.plan e tenant tables columns = .ok q) :
      Emits (.select q) (e.vocabulary tables)

/-! ### Rows

What a statement on a row is made of fits a vocabulary that has the columns concerned. The set of
columns is left open: each statement gives its own. -/

namespace Table

variable {t : Table} {columns : String → Prop}

theorem fits_sqlName : t.sqlName.Fits (t.vocabulary columns) :=
  ⟨.inl rfl, .inr (.inl rfl), rfl, rfl⟩

/-- A column without an alias is a single name. -/
theorem fits_column {column : String} (h : columns column) :
    ColumnName.Fits (t.vocabulary columns) ⟨none, column⟩ := by
  refine ⟨.inr (.inr h), ?_⟩
  rintro q ⟨⟩

theorem fits_bind (column : String) (v : Value) :
    (t.bind column v).Fits (t.vocabulary columns) :=
  fun _ htype => ⟨column, htype⟩

theorem fits_output {column : String} (h : columns column) :
    (t.output none column).Fits (t.vocabulary columns) := by
  refine ⟨fits_column h, ?_⟩
  intro l hl
  unfold output at hl
  dsimp only at hl
  split at hl
  · cases hl
    exact .inr (.inr h)
  · cases hl

theorem fits_equals {column : String} (h : columns column) (v : Value) :
    (t.equals column v).Fits (t.vocabulary columns) :=
  ⟨fits_column h, fits_bind column v⟩

theorem fits_rowFilter {scope : Scope} (key : Value) (hscope : columns scope.column)
    (hkey : columns t.primaryKey) : (t.rowFilter scope key).Fits (t.vocabulary columns) := by
  intro c hc
  simp only [rowFilter, List.append_nil, List.mem_cons, List.not_mem_nil, or_false] at hc
  rcases hc with rfl | rfl
  · exact fits_equals hscope _
  · exact fits_equals hkey _

/-- A query on one table fits if its parts do: there is neither an alias nor a join. -/
theorem fits_query {outputs : List Output} {f : Filter} {order : List (ColumnName × Direction)}
    {extent : Extent} (houtputs : ∀ o ∈ outputs, o.Fits (t.vocabulary columns))
    (hf : f.Fits (t.vocabulary columns)) (horder : ∀ k ∈ order, k.1.Fits (t.vocabulary columns)) :
    Query.Fits (t.vocabulary columns)
      { outputs, table := t.sqlName, filter := f, order, extent } where
  outputs := houtputs
  table := fits_sqlName
  aliasName := by rintro a ⟨⟩
  joins := by simp
  filter := hf
  order := horder

/-- Assignments of a record's columns, or of some of them. -/
theorem fits_assignments {r : Record} {entries : List (String × Value)}
    (hr : ∀ x, r.contains x = true → columns x) (hentries : ∀ e ∈ entries, e ∈ r.entries) :
    ∀ a ∈ t.assignments entries, a.Fits (t.vocabulary columns) := by
  intro a ha
  obtain ⟨⟨column, v⟩, he, rfl⟩ := List.mem_map.1 ha
  refine ⟨.inr (.inr (hr column ?_)), fits_bind column v⟩
  rw [Dict.contains, Dict.mem_entries_iff.1 (hentries _ he)]
  rfl

end Table

/-! ### Pages

A page request names columns in its filters, in its select list and in its order. Each is looked up
in the table first, and it is the table's own name that is written. -/

namespace Page

variable {t : Table} {scope : Scope} {r : Listing} {columns : String → Prop}

/-- Every condition of a filter is on a column of the table. -/
theorem fits_conditions (hcolumns : ∀ x ∈ t.columns, columns x) {equal like : Dict Json}
    {cs : List Condition} (h : conditions t equal like = .ok cs) :
    ∀ c ∈ cs, c.Fits (t.vocabulary columns) := by
  obtain ⟨equals, likes, hequals, hlikes, rfl⟩ := conditions_eq_ok_iff.1 h
  intro c hc
  -- the equalities stand first, and then the text filters, of which nulls make no condition
  rcases List.mem_append.1 hc with hc | hc
  · obtain ⟨⟨name, v⟩, -, he⟩ := exists_of_forall₂ hequals hc
    obtain ⟨column, -, hcolumn, hcases⟩ := equalCondition_eq_ok_iff.1 he
    split at hcases
    · rw [hcases]
      exact Table.fits_column (hcolumns column hcolumn)
    · obtain ⟨w, -, rfl⟩ := hcases
      exact Table.fits_equals (hcolumns column hcolumn) w
  · obtain ⟨c?, hc?, rfl⟩ := List.mem_filterMap.1 hc
    obtain ⟨⟨name, v⟩, -, he⟩ := exists_of_forall₂ hlikes hc?
    obtain ⟨column, -, hcolumn, hcases⟩ := textCondition_eq_ok_iff.1 he
    split at hcases
    · cases hcases
    · cases hcases
      exact Table.fits_column (hcolumns column hcolumn)

/-- So is every condition of the whole filter, with that of the scope before them. -/
theorem fits_filter (hcolumns : ∀ x ∈ t.columns, columns x) (hscope : columns scope.column)
    {f : Filter} (h : filter t scope r = .ok f) : f.Fits (t.vocabulary columns) := by
  obtain ⟨all, any, hall, hany, rfl⟩ := filter_eq_ok_iff.1 h
  intro c hc
  rcases List.mem_append.1 hc with hc | hc
  · rcases List.mem_cons.1 hc with rfl | hc
    · exact Table.fits_equals hscope _
    · exact fits_conditions hcolumns hall c hc
  · exact fits_conditions hcolumns hany c hc

end Page

/-! ### Query expressions

In a query expression several tables are bound, each under an alias. That a part of the plan fits is
read off what the part is (`Shows`, `Holds`, `Asks`, `Denotes`): each of them has a bound table as
its source. -/

namespace Query

variable {e : Expression} {tables : Dict Table} {bound : List BoundTable}

theorem fits_sqlName {b : BoundTable} (h : e.Binds tables b) :
    b.table.sqlName.Fits (e.vocabulary tables) :=
  ⟨⟨b, h, .inl rfl⟩, ⟨b, h, .inr (.inl rfl)⟩, ⟨b, h, .inl ⟨rfl, rfl⟩⟩⟩

/-- A column after an alias is one of the pairs of the vocabulary. -/
theorem fits_column {b : BoundTable} {column : String} (h : e.Binds tables b)
    (hcolumn : column ∈ b.table.columns) :
    ColumnName.Fits (e.vocabulary tables) ⟨some b.aliasName, column⟩ := by
  refine ⟨⟨b, h, .inr (.inr (.inr ⟨column, hcolumn, .inl rfl⟩))⟩, ?_⟩
  rintro q ⟨⟩
  exact ⟨⟨b, h, .inr (.inr (.inl rfl))⟩, ⟨b, h, .inr ⟨rfl, hcolumn⟩⟩⟩

theorem fits_name (hbound : ∀ b ∈ bound, e.Binds tables b) {baseAlias : String} {r : NamedColumn}
    {c : BoundColumn} (h : Denotes bound baseAlias r c) : c.name.Fits (e.vocabulary tables) :=
  fits_column (hbound _ h.source) h.held

theorem fits_type {b : BoundTable} (h : e.Binds tables b) (column : String) (v : Value) :
    Bound.Fits (e.vocabulary tables) ⟨v, b.table.parameterType? column⟩ :=
  fun _ htype => ⟨b, h, column, htype⟩

/-- An output is a column after an alias; its label, if it has one, is the column's name alone or
with the alias before it. -/
theorem fits_of_shows (hbound : ∀ b ∈ bound, e.Binds tables b) {o : Output} (h : Shows bound o) :
    o.Fits (e.vocabulary tables) := by
  obtain ⟨c, hsource, hheld, hname, hlabel⟩ := h
  have hbinds := hbound _ hsource
  refine ⟨by rw [hname]; exact fits_column hbinds hheld, ?_⟩
  intro l hl
  exact ⟨c.source, hbinds, .inr (.inr (.inr ⟨c.column, hheld, hlabel l hl⟩))⟩

theorem fits_of_holds (hbound : ∀ b ∈ bound, e.Binds tables b) {columns : TenantNaming}
    {tenant : Tenant} {cs : List Condition} (h : Holds columns tenant bound cs) :
    ∀ c ∈ cs, c.Fits (e.vocabulary tables) := by
  induction h with
  | nil => simp
  | held hcolumn hvalue rest ih =>
    intro c hc
    have hb := hbound _ List.mem_cons_self
    rcases List.mem_cons.1 hc with rfl | hc
    · exact ⟨fits_column hb hcolumn.1, fits_type hb _ _⟩
    · exact ih (fun b hb => hbound b (List.mem_cons_of_mem _ hb)) c hc
  | shared hnone rest ih => exact ih fun b hb => hbound b (List.mem_cons_of_mem _ hb)

theorem fits_of_asks (hbound : ∀ b ∈ bound, e.Binds tables b) {baseAlias : String}
    {w : WhereClause} {c : Condition} (h : Asks bound baseAlias w c) :
    c.Fits (e.vocabulary tables) := by
  obtain ⟨r, hdenotes, hasked⟩ := h
  have hname := fits_name hbound hdenotes
  split at hasked
  · rw [hasked]
    exact hname
  · obtain ⟨v, -, rfl⟩ := hasked
    exact ⟨hname, fits_type (hbound _ hdenotes.source) _ _⟩

/-- A planned query fits the vocabulary of its expression. -/
theorem fits_plan {tenant : Tenant} {columns : TenantNaming} {q : Sql.Query}
    (h : plan e tenant tables columns = .ok q) : q.Fits (e.vocabulary tables) := by
  obtain ⟨base, joined, tenants, outs, joins, wheres, order, hbase, hjoined, hnodup, -, htenants,
    houts, hjoins, hwheres, horder, rfl⟩ := plan_eq_ok_iff.1 h
  -- every table that is bound is one that the expression names
  have hbinds : ∀ b ∈ joined, e.Binds tables b := by
    intro b hb
    obtain ⟨j, hj, hjb⟩ := exists_of_forall₂ hjoined hb
    exact ⟨j.target, .inr ⟨j, hj, rfl⟩, hjb⟩
  have hbound : ∀ b ∈ base :: joined, e.Binds tables b := by
    intro b hb
    rcases List.mem_cons.1 hb with rfl | hb
    · exact ⟨e.base, .inl rfl, hbase⟩
    · exact hbinds b hb
  have hbaseBinds := hbound base List.mem_cons_self
  -- the clauses of the query in their order
  constructor
  · intro o ho
    exact fits_of_shows hbound (outputs_shows hnodup List.mem_cons_self houts o ho)
  · exact fits_sqlName hbaseBinds
  · rintro a ⟨⟩
    exact ⟨base, hbaseBinds, .inr (.inr (.inl rfl))⟩
  · intro k hk
    obtain ⟨⟨j, b⟩, hjb, hplanned⟩ := exists_of_forall₂ hjoins hk
    obtain ⟨left, right, hleft, hright, rfl⟩ := (planJoin_eq_ok_iff hnodup).1 hplanned
    have hb := hbinds b (List.of_mem_zip hjb).2
    exact ⟨fits_sqlName hb, ⟨b, hb, .inr (.inr (.inl rfl))⟩, fits_name hbound hleft,
      fits_name hbound hright⟩
  · intro c hc
    rcases List.mem_append.1 (List.append_nil (tenants ++ wheres) ▸ hc) with hc | hc
    · exact fits_of_holds hbound htenants c hc
    · obtain ⟨w, -, hw⟩ := exists_of_forall₂ hwheres hc
      exact fits_of_asks hbound hw
  · intro k hk
    obtain ⟨o, -, ho⟩ := exists_of_forall₂ horder hk
    obtain ⟨c, hdenotes, rfl⟩ := (planOrder_eq_ok_iff hnodup).1 ho
    exact fits_name hbound hdenotes

end Query

/-! ### Statements

From the parts to whole statements, one case for each kind of statement. -/

theorem Table.fits_selectRow (t : Table) (scope : Scope) (key : Value) {columns : String → Prop}
    (hcolumns : ∀ x ∈ t.columns, columns x) (hscope : columns scope.column)
    (hkey : columns t.primaryKey) : (t.selectRow scope key).Fits (t.vocabulary columns) := by
  refine fits_query ?_ (fits_rowFilter key hscope hkey) (by simp)
  intro o ho
  obtain ⟨column, hcolumn, rfl⟩ := List.mem_map.1 ho
  exact fits_output (hcolumns column hcolumn)

theorem Table.fits_updateRow (t : Table) (scope : Scope) (key : Value) {r : Record}
    {columns : String → Prop} (hr : ∀ x, r.contains x = true → columns x)
    (hscope : columns scope.column) (hkey : columns t.primaryKey) :
    (t.updateRow scope key r).Fits (t.vocabulary columns) := by
  have hfilter := fits_rowFilter (t := t) key hscope hkey
  rw [updateRow]
  split
  · -- there is nothing to assign, so the key is asked for
    refine fits_query ?_ hfilter (by simp)
    intro o ho
    obtain rfl := List.mem_singleton.1 ho
    refine ⟨fits_column hkey, ?_⟩
    rintro l ⟨⟩
  · refine ⟨fits_sqlName, fits_assignments hr ?_, hfilter⟩
    intro e he
    exact (List.mem_filter.1 he).1

theorem Page.fits_page {t : Table} {scope : Scope} {r : Listing} {w : Window} {s : Statements}
    {columns : String → Prop} (hcolumns : ∀ x ∈ t.columns, columns x)
    (hscope : columns scope.column) (h : statements t scope r w = .ok s) :
    s.page.Fits (t.vocabulary columns) := by
  obtain ⟨selected, f, terms, hselected, hf, hterms, rfl⟩ := statements_eq_ok_iff.1 h
  refine Table.fits_query ?_ (fits_filter hcolumns hscope hf) ?_
  · intro o ho
    obtain ⟨column, hcolumn, rfl⟩ := List.mem_map.1 ho
    have hheld := mem_columns_of_selectColumns hselected column hcolumn
    exact Table.fits_output (hcolumns column hheld)
  · rintro ⟨⟨q, column⟩, d⟩ hk
    obtain ⟨hnone, hcolumn⟩ := mem_columns_of_order hterms _ hk
    obtain rfl : q = none := hnone
    exact Table.fits_column (hcolumns column hcolumn)

/-- A statement that is made fits the vocabulary of what it is made from. -/
theorem fits_of_emits {s : Statement} {v : Vocabulary} (h : Emits s v) : s.Fits v := by
  -- one case for each statement; which columns its vocabulary has differs from case to case
  cases h with
  | insert t r =>
    exact ⟨Table.fits_sqlName, Table.fits_assignments (fun _ h => .inr h) fun _ h => h,
      Table.fits_output (.inl rfl)⟩
  | select t scope key =>
    exact t.fits_selectRow scope key (fun _ h => .inr (.inr h)) (.inr (.inl rfl)) (.inl rfl)
  | update t scope key r =>
    exact t.fits_updateRow scope key (fun _ h => .inr (.inr h)) (.inr (.inl rfl)) (.inl rfl)
  | delete t scope key =>
    exact ⟨Table.fits_sqlName, Table.fits_rowFilter key (.inr rfl) (.inl rfl)⟩
  | page h => exact Page.fits_page (fun _ h => .inr h) (.inl rfl) h
  | @total t scope r w s h =>
    obtain ⟨selected, f, terms, -, hf, -, rfl⟩ := Page.statements_eq_ok_iff.1 h
    exact ⟨Table.fits_sqlName, Page.fits_filter (fun _ h => .inr h) (.inl rfl) hf⟩
  | query h => exact Query.fits_plan h

/-- The text of a statement that is made is within the vocabulary of what it is made from, as long
as the types of parameters are written without quotes or as names in a namespace. -/
theorem isWithin_of_emits {s : Statement} {v : Vocabulary} (h : Emits s v)
    (htypes : ∀ type, v.types type → IsTypeText type) : s.IsWithin v :=
  (fits_of_emits h).isWithin htypes

/-- A table and columns whose names hold quotes, and a key whose type is in a namespace. -/
theorem isWithin_of_emits_delete :
    let t : Table :=
      { schema := "a\"b", name := "c\"; DROP", primaryKey := "\"", columns := ["\"", "d\" OR"]
        parameterTypes := .singleton "\"" (qualifiedName "a\"b" "key") }
    let scope : Scope := ⟨"d\" OR", .text "\""⟩
    let s := t.deleteRow scope (.int 1)
    s.text = "DELETE FROM \"a\"\"b\".\"c\"\"; DROP\" WHERE \"d\"\" OR\" = $1 AND \"\"\"\" = " ++
        "$2::\"a\"\"b\".\"key\"" ∧
      s.IsWithin (t.vocabulary fun x => x = t.primaryKey ∨ x = scope.column) := by
  intro t scope s
  refine ⟨by decide +kernel, isWithin_of_emits (.delete t scope (.int 1)) ?_⟩
  rintro type ⟨column, htype⟩
  have hentry : (column, type) ∈ t.parameterTypes.entries := Dict.mem_entries_iff.2 htype
  have heq := List.mem_singleton.1 hentry
  cases heq
  exact .inr ⟨"a\"b", "key", rfl⟩

end TenantGate
