import Mathlib.Data.List.Nodup
import TenantGate.Proofs.Page.Statements
import TenantGate.Proofs.Query.Naming
import TenantGate.Proofs.Query.Outputs
import TenantGate.Server.Cell
/-!
# Select lists

A select list becomes one output for every column that it asks for, in the order in which the
columns are first asked for, whether it stands in a query expression or in a page request. The
outputs have different names, so the object of a row loses none of its columns (`KeepsRows`), also
where columns of one name come from several tables. Both are said together in `shows_each_once`.
-/

namespace TenantGate

open Sql

/-! ### Lists without repetition

A list is gone through from the left, and an element that was met before is left out. So what one
more element at the end does depends on whether it was met. -/

section EraseDups

variable {α : Type} [BEq α] [LawfulBEq α] {l : List α} {a : α}

theorem eraseDups_concat_of_mem (h : a ∈ l) : (l ++ [a]).eraseDups = l.eraseDups := by
  rw [List.eraseDups_append]
  simp [List.removeAll, h]

theorem eraseDups_concat_of_not_mem (h : a ∉ l) : (l ++ [a]).eraseDups = l.eraseDups ++ [a] := by
  rw [List.eraseDups_append]
  simp [List.removeAll, h, List.eraseDups_cons]

theorem nodup_eraseDups (l : List α) : l.eraseDups.Nodup := by
  -- from the end, as the two lemmas above take the list apart
  induction l using List.reverseRecOn with
  | nil => exact List.nodup_nil
  | append_singleton l a ih =>
    by_cases h : a ∈ l
    · rwa [eraseDups_concat_of_mem h]
    · rw [eraseDups_concat_of_not_mem h, ← List.concat_eq_append]
      exact ih.concat fun hmem => h (List.mem_eraseDups.1 hmem)

end EraseDups

/-! ### Rows

A row is a list of named values, and its object has one field for each name. With two columns of one
name one value would be lost. -/

/-- The object of a row with columns of these names has a field for each column of the row. -/
def KeepsRows (outputs : List Output) : Prop :=
  ∀ row : Server.Row, row.map Prod.fst = outputs.map Output.name →
    ∃ fields, row.toJson = .object fields ∧ ∀ cell ∈ row, (cell.1, cell.2.toJson) ∈ fields

/-- Different names are enough for an object to keep its row. -/
theorem keepsRows_of_nodup {outputs : List Output} (h : (outputs.map Output.name).Nodup) :
    KeepsRows outputs := by
  intro row hrow
  refine ⟨_, rfl, ?_⟩
  rintro ⟨name, cell⟩ hcell
  rw [← hrow] at h
  have hfound : (name, cell) ∈ (Dict.ofList row).entries :=
    Dict.mem_entries_iff.2 (Dict.get?_insertMany_of_mem h hcell .empty)
  exact List.mem_map_of_mem hfound

@[simp] theorem Table.name_output (t : Table) (qualifier : Option String) (column : String) :
    (t.output qualifier column).name = column := by
  unfold Table.output Output.name
  dsimp only
  split <;> rfl

/-- The output has the name of its column, or that name after the alias of its table. -/
def Sql.Output.IsNamedAfterColumn (o : Output) : Prop :=
  o.name = o.column.name ∨ ∃ a, o.column.qualifier = some a ∧ o.name = a ++ "_" ++ o.column.name

/-! ### Query expressions

A selection goes through the columns of the select list and keeps which ones it has met and which
names are taken. `Lists` extends that by what it has put out. -/

namespace Query

/-- A column that is shown is named after itself, perhaps with the alias of its table. -/
theorem Shows.isNamedAfterColumn {bound : List BoundTable} {o : Output} (h : Shows bound o) :
    o.IsNamedAfterColumn := by
  obtain ⟨c, -, -, hcolumn, hlabel⟩ := h
  unfold Output.IsNamedAfterColumn Output.name
  rw [hcolumn]
  cases hl : o.label with
  | none => exact .inl rfl
  | some l =>
    rcases hlabel l hl with rfl | rfl
    · exact .inl rfl
    · exact .inr ⟨_, rfl, rfl⟩

/-- Two columns are told apart by alias and name, which is how they are written. -/
theorem BoundColumn.key_eq_iff {c d : BoundColumn} : d.key = c.key ↔ d.name = c.name := by
  simp [key, name]

namespace Selection

/-- What a selection shows of the columns met: each of them once, under names that differ. -/
structure Lists (s : Selection) (cs : List BoundColumn) : Prop extends s.Records cs where
  columns : s.outputs.map (·.column) = (cs.map BoundColumn.name).eraseDups
  labels : s.outputs.map Output.name = s.names.reverse
  nodup : s.names.Nodup

theorem lists_empty : Lists {} [] := ⟨records_empty, rfl, rfl, List.nodup_nil⟩

variable {s s' : Selection} {cs : List BoundColumn} {c : BoundColumn}

/-- One more column is shown if it is new, and then under a name that was free. -/
theorem Lists.append (hs : s.Lists cs) (h : s.add c = some s') : s'.Lists (cs ++ [c]) := by
  have hrecords := hs.toRecords.append h
  have hpicked : c.key ∈ s.picked ↔ c.name ∈ cs.map BoundColumn.name := by
    simp only [hs.picked, List.mem_map, BoundColumn.key_eq_iff]
  -- met before, free under its own name, or free under the one after its alias
  unfold add at h
  dsimp only at h
  split at h
  next hmet =>
    cases h
    have hname := hpicked.1 (List.contains_iff_mem.1 hmet)
    refine ⟨hrecords, ?_, hs.labels, hs.nodup⟩
    rw [List.map_append, List.map_singleton, eraseDups_concat_of_mem hname, hs.columns]
  next hunmet =>
    have hname : c.name ∉ cs.map BoundColumn.name := by
      rw [← hpicked, ← List.contains_iff_mem]
      exact hunmet
    -- a new column stands last, whatever it is called
    have hcolumns : ∀ o : Output, o.column = c.name →
        (s.outputs ++ [o]).map (·.column) = ((cs ++ [c]).map BoundColumn.name).eraseDups := by
      intro o ho
      rw [List.map_append, List.map_append, List.map_singleton, List.map_singleton,
        eraseDups_concat_of_not_mem hname, hs.columns, ho]
    have hlabels : ∀ o : Output,
        (s.outputs ++ [o]).map Output.name = (o.name :: s.names).reverse := by
      intro o
      rw [List.map_append, List.map_singleton, List.reverse_cons, hs.labels]
    split at h
    next hfree =>
      cases h
      refine ⟨hrecords, hcolumns _ rfl, ?_, List.nodup_cons.2 ⟨by simpa using hfree, hs.nodup⟩⟩
      rw [hlabels, Table.name_output]
    next =>
      split at h
      · cases h
      next hlabel =>
        cases h
        exact ⟨hrecords, hcolumns _ rfl, hlabels _,
          List.nodup_cons.2 ⟨by simpa using hlabel, hs.nodup⟩⟩

end Selection

/-- The columns of a select list are looked up one by one, and those that are met are listed. -/
theorem lists_selectFrom {bound : List BoundTable} {baseAlias : String}
    (hnodup : (aliases bound).Nodup) {names : List NamedColumn} {s s' : Selection}
    {cs : List BoundColumn} (hs : s.Lists cs) (h : selectFrom bound baseAlias s names = .ok s') :
    ∃ ds, List.Forall₂ (Denotes bound baseAlias) names ds ∧ s'.Lists (cs ++ ds) := by
  -- The induction is on the names; `cs` are the columns met so far.
  induction names generalizing s cs with
  | nil =>
    cases h
    exact ⟨[], .nil, by rwa [List.append_nil]⟩
  | cons name names ih =>
    obtain ⟨c, hc, h⟩ := bind_eq_ok_iff.1 h
    split at h
    · next s₁ hadd =>
      obtain ⟨ds, hds, hlists⟩ := ih (hs.append hadd) h
      refine ⟨c :: ds, .cons ((resolve_eq_ok_iff hnodup).1 hc) hds, ?_⟩
      rwa [List.append_cons]
    · cases h

end Query

/-! ### Page requests

A page request selects from one table, so the names of its columns differ already. A name may be
blank, and two names may mean one column. -/

namespace Page

variable {t : Table} {s : Selection} {cs names : List String}

/-- The columns that names mean, in order. A name that means nothing is left out. -/
def named (t : Table) (names : List String) : List String :=
  (names.map t.resolve).filter (· ≠ "")

/-- What a selection keeps of the columns met: if the table has them all, each of them once. -/
structure Selection.Lists (t : Table) (s : Selection) (cs : List String) : Prop where
  seen : ∀ c, c ∈ s.seen ↔ c ∈ cs
  columns : s.failures.isEmpty = true → s.columns = cs.eraseDups ∧ ∀ c ∈ cs, c ∈ t.columns

theorem Selection.lists_empty : Selection.Lists t {} [] := ⟨by simp, by simp⟩

/-- A column met before changes nothing. -/
theorem Selection.Lists.append_met (hs : s.Lists t cs) {c : String} (hc : c ∈ cs) :
    s.Lists t (cs ++ [c]) where
  seen d := by
    rw [hs.seen, List.mem_append, List.mem_singleton]
    exact ⟨.inl, fun h => h.elim id fun heq => heq ▸ hc⟩
  columns hnone := by
    obtain ⟨hcolumns, hheld⟩ := hs.columns hnone
    rw [eraseDups_concat_of_mem hc, List.forall_mem_append, List.forall_mem_singleton]
    exact ⟨hcolumns, hheld, hheld c hc⟩

/-- One more name is passed over, or its column is kept, or it is refused. -/
theorem Selection.Lists.add (hs : s.Lists t cs) (name : String) :
    (s.add t name).Lists t (cs ++ named t [name]) := by
  have hseen : s.seen.contains (t.resolve name) = true ↔ t.resolve name ∈ cs := by
    rw [List.contains_iff_mem, hs.seen]
  -- blank, met before, or new; a new one is kept if the table has it
  by_cases hblank : t.resolve name = ""
  · rw [Selection.add, if_pos (.inl hblank), named, List.map_singleton, hblank]
    simpa using hs
  have hnamed : named t [name] = [t.resolve name] := by simp [named, hblank]
  rw [hnamed]
  by_cases hmet : t.resolve name ∈ cs
  · rw [Selection.add, if_pos (.inr (hseen.2 hmet))]
    exact hs.append_met hmet
  rw [Selection.add, if_neg (not_or.2 ⟨hblank, fun h => hmet (hseen.1 h)⟩)]
  have hkept : ∀ c, c ∈ t.resolve name :: s.seen ↔ c ∈ cs ++ [t.resolve name] := by
    intro c
    rw [List.mem_cons, List.mem_append, List.mem_singleton, hs.seen, or_comm]
  dsimp only
  split
  next hcolumn =>
    refine ⟨hkept, fun hnone => ?_⟩
    obtain ⟨hcolumns, hheld⟩ := hs.columns hnone
    rw [eraseDups_concat_of_not_mem hmet, List.forall_mem_append, List.forall_mem_singleton]
    exact ⟨by rw [← hcolumns], hheld, Table.hasColumn_iff.1 hcolumn⟩
  next =>
    refine ⟨hkept, fun hnone => ?_⟩
    rw [Dict.isEmpty_insert] at hnone
    cases hnone

/-- What is kept of all names. -/
theorem lists_foldl (t : Table) (names : List String) :
    (names.foldl (Selection.add t) {}).Lists t (named t names) := by
  induction names using List.reverseRecOn with
  | nil => exact Selection.lists_empty
  | append_singleton names name ih =>
    rw [List.foldl_append, named, List.map_append, List.filter_append]
    exact ih.add name

/-- Columns that are selected by name are those that the names mean, and the table has them. -/
theorem selectColumns_eq_ok {columns : List String} (hne : names ≠ [])
    (h : selectColumns t names = .ok columns) :
    columns = (named t names).eraseDups ∧ ∀ c ∈ named t names, c ∈ t.columns := by
  unfold selectColumns at h
  rw [if_neg (by simpa using hne)] at h
  dsimp only at h
  split at h
  · cases h
  next hnone =>
    split at h
    · cases h
    · cases h
      exact (lists_foldl t names).columns (by simpa using hnone)

end Page

/-! ### Both

Query expressions and page requests select in different ways, and the result is the same: each
column once, in the order of the first requests. -/

/-- A select list that is not empty shows every column that it asks for once, in the order of the
first requests, under names that differ, and the objects of rows keep all of them. In a query
expression a column is one of a bound table, and its name its own or the one after the alias; in a
page request it is the column of the table that a name means. -/
theorem shows_each_once (e : Query.Expression) (tenant : Tenant) (tables : Dict Table)
    (columns : TenantNaming) (t : Table) (scope : Scope) (r : Listing) (w : Window) :
    (∀ q, Query.plan e tenant tables columns = .ok q → e.select ≠ [] →
      ∃ base joined cs, Query.Binds tables e.base base ∧
        List.Forall₂ (fun j b => Query.Binds tables j.target b) e.joins joined ∧
        List.Forall₂ (Query.Denotes (base :: joined) base.aliasName) e.select cs ∧
        q.outputs.map (·.column) = (cs.map Query.BoundColumn.name).eraseDups ∧
        (∀ o ∈ q.outputs, o.IsNamedAfterColumn) ∧ (q.outputs.map Output.name).Nodup ∧
        KeepsRows q.outputs) ∧
    ∀ s, Page.statements t scope r w = .ok s → r.select ≠ [] →
      s.rows.outputs = (Page.named t r.select).eraseDups.map (t.output none) ∧
        (∀ c ∈ Page.named t r.select, c ∈ t.columns) ∧
        s.rows.outputs.map Output.name = (Page.named t r.select).eraseDups ∧
        KeepsRows s.rows.outputs := by
  constructor
  · intro q hq hne
    obtain ⟨base, joined, -, outs, -, -, -, hbase, hjoined, hnodup, -, -, houts, -, -, -, rfl⟩ :=
      Query.plan_eq_ok_iff.1 hq
    have hshown := Query.outputs_shows hnodup List.mem_cons_self houts
    rw [Query.outputs, if_neg (by simpa using hne)] at houts
    obtain ⟨selection, hselection, houts⟩ := bind_eq_ok_iff.1 houts
    obtain rfl := pure_eq_ok_iff.1 houts
    obtain ⟨cs, hcs, hlists⟩ :=
      Query.lists_selectFrom hnodup Query.Selection.lists_empty hselection
    have hnames : (selection.outputs.map Output.name).Nodup := by
      rw [hlists.labels, List.nodup_reverse]
      exact hlists.nodup
    exact ⟨base, joined, cs, hbase, hjoined, hcs, hlists.columns,
      fun o ho => (hshown o ho).isNamedAfterColumn, hnames, keepsRows_of_nodup hnames⟩
  · intro s hs hne
    obtain ⟨selected, -, -, hselected, -, -, rfl⟩ := Page.statements_eq_ok_iff.1 hs
    obtain ⟨rfl, hheld⟩ := Page.selectColumns_eq_ok hne hselected
    have hnames : ((Page.named t r.select).eraseDups.map (t.output none)).map Output.name =
        (Page.named t r.select).eraseDups := by
      rw [List.map_map]
      simp [Function.comp_def]
    refine ⟨rfl, hheld, hnames, keepsRows_of_nodup ?_⟩
    rw [hnames]
    exact nodup_eraseDups _

/-- The second `id` appears as `m_id`, so that the column `m_id` after it needs its alias as well;
and a page shows the column `title` once, which is asked for under two names. -/
theorem shows_each_once_labels :
    let tables : Dict Table := .ofList
      [("codes", { schema := "public", name := "codes", primaryKey := "id"
                   columns := ["id", "m_id", "company_id"] }),
        ("menus", { schema := "public", name := "menus", primaryKey := "id", columns := ["id"] })]
    let id : Query.NamedColumn := ⟨none, "id", "id"⟩
    let other : Query.NamedColumn := ⟨some "m", "id", "m.id"⟩
    let e : Query.Expression :=
      { base := ⟨"codes", "codes"⟩, joins := [⟨⟨"menus", "m"⟩, other, id⟩]
        select := [id, other, id, ⟨none, "m_id", "m_id"⟩] }
    let tenant : Tenant := ⟨"16", by decide +kernel, by decide⟩
    let t : Table :=
      { schema := "public", name := "notes", primaryKey := "id"
        columns := ["id", "title", "company_id"], aliases := .singleton "name" "title" }
    let r : Listing := { select := [" name ", "", "id", "title"] }
    let scope : Scope := ⟨"company_id", .text "16"⟩
    (∃ q, Query.plan e tenant tables .default = .ok q ∧ e.select ≠ [] ∧
        q.outputs.map Output.name = ["id", "m_id", "codes_m_id"] ∧ KeepsRows q.outputs) ∧
      ∃ s, Page.statements t scope r (r.window 25) = .ok s ∧ r.select ≠ [] ∧
        s.rows.outputs.map Output.name = ["title", "id"] ∧ KeepsRows s.rows.outputs := by
  intro tables id other e tenant t r scope
  have hplan : (Query.plan e tenant tables .default).toOption.map
      (fun q => q.outputs.map Output.name) = some ["id", "m_id", "codes_m_id"] := by
    decide +kernel
  have hmade : (Page.statements t scope r (r.window 25)).toOption.map
      (fun s => s.rows.outputs.map Output.name) = some ["title", "id"] := by
    decide +kernel
  obtain ⟨q, hq, houtputs⟩ := Option.map_eq_some_iff.1 hplan
  obtain ⟨s, hs, htitles⟩ := Option.map_eq_some_iff.1 hmade
  have hq := toOption_eq_some_iff.1 hq
  have hs := toOption_eq_some_iff.1 hs
  have hselect : e.select ≠ [] := List.cons_ne_nil _ _
  have hnames : r.select ≠ [] := List.cons_ne_nil _ _
  obtain ⟨hquery, hpage⟩ := shows_each_once e tenant tables .default t scope r (r.window 25)
  obtain ⟨-, -, -, -, -, -, -, -, -, hkeeps⟩ := hquery q hq hselect
  obtain ⟨-, -, -, hkeeps'⟩ := hpage s hs hnames
  exact ⟨⟨q, hq, hselect, houtputs, hkeeps⟩, s, hs, hnames, htitles, hkeeps'⟩

end TenantGate
