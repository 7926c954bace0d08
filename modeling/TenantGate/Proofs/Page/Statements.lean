import TenantGate.Page.Statements
import TenantGate.Proofs.Outcome
import TenantGate.Proofs.Table.Statements
import TenantGate.Proofs.Tenancy.Scope
/-!
# Statements of a page

What the two statements of a page are made of (`statements_eq_ok_iff`), that both are bound to the
scope, and that every column in them but the scope's is one of the table, however it was named.
-/

namespace TenantGate.Page

open Sql

variable {t : Table} {scope : Scope} {r : Listing} {w : Window}

/-! ### Filters

What each part of the filter is made into, as an equivalence: it says in one go when the part is
accepted and what it becomes. -/

/-- A filter names a column of the table, by its own name or by another one. -/
theorem filterColumn_eq_ok_iff {name column : String} :
    filterColumn t name = .ok column ↔ column = t.resolve name ∧ column ∈ t.columns := by
  rw [filterColumn, ← Table.hasColumn_iff]
  split
  · next h =>
    rw [Except.ok.injEq]
    constructor
    · rintro rfl
      exact ⟨rfl, h⟩
    · rintro ⟨rfl, -⟩
      rfl
  · next h =>
    constructor
    · rintro ⟨⟩
    · rintro ⟨rfl, hcolumn⟩
      exact absurd hcolumn h

/-- An equality filter compares its column with the value coerced for it, and a JSON null asks for
no value. -/
theorem equalCondition_eq_ok_iff {name : String} {v : Json} {c : Condition} :
    equalCondition t (name, v) = .ok c ↔
      ∃ column, column = t.resolve name ∧ column ∈ t.columns ∧
        if v.isNull then c = .isNull ⟨none, column⟩
        else ∃ w, coerce (t.kindOf? column) v = .ok w ∧ c = t.equals column w := by
  show (filterColumn t name >>= fun column =>
    if v.isNull then pure (.isNull ⟨none, column⟩)
    else coerceField name (t.kindOf? column) v >>= fun w => pure (t.equals column w)) = .ok c ↔ _
  simp only [bind_eq_ok_iff, filterColumn_eq_ok_iff, and_assoc]
  refine exists_congr fun column => and_congr_right fun _ => and_congr_right fun _ => ?_
  split
  · exact pure_eq_ok_iff
  · simp only [bind_eq_ok_iff, pure_eq_ok_iff, coerceField_eq_ok_iff]

/-- A text filter asks for its pattern, and a JSON null for nothing. -/
theorem textCondition_eq_ok_iff {name : String} {v : Json} {c : Option Condition} :
    textCondition t (name, v) = .ok c ↔
      ∃ column, column = t.resolve name ∧ column ∈ t.columns ∧
        c = if v.isNull then none else some (.resembles ⟨none, column⟩ (textPattern v)) := by
  show (filterColumn t name >>= fun column =>
    pure (if v.isNull then none else some (.resembles ⟨none, column⟩ (textPattern v)))) =
      .ok c ↔ _
  simp only [bind_eq_ok_iff, pure_eq_ok_iff, filterColumn_eq_ok_iff, and_assoc]

/-- A pair of filters is accepted if each entry is, the equalities first. -/
theorem conditions_eq_ok_iff {equal like : Dict Json} {cs : List Condition} :
    conditions t equal like = .ok cs ↔
      ∃ equals likes, List.Forall₂ (fun e c => equalCondition t e = .ok c) equal.entries equals ∧
        List.Forall₂ (fun e c => textCondition t e = .ok c) like.entries likes ∧
        cs = equals ++ likes.filterMap id := by
  simp only [conditions, bind_eq_ok_iff, pure_eq_ok_iff, mapM_eq_ok_iff]
  constructor
  · rintro ⟨equals, hequals, likes, hlikes, rfl⟩
    exact ⟨equals, likes, hequals, hlikes, rfl⟩
  · rintro ⟨equals, likes, hequals, hlikes, rfl⟩
    exact ⟨equals, hequals, likes, hlikes, rfl⟩

/-- The filter is accepted if both pairs are; the scope's condition comes first. -/
theorem filter_eq_ok_iff {f : Filter} :
    filter t scope r = .ok f ↔ ∃ all any, conditions t r.equal r.like = .ok all ∧
      conditions t r.anyEqual r.anyLike = .ok any ∧
      f = ⟨t.equals scope.column scope.value :: all, any⟩ := by
  simp only [filter, bind_eq_ok_iff, pure_eq_ok_iff]
  constructor
  · rintro ⟨all, hall, any, hany, rfl⟩
    exact ⟨all, any, hall, hany, rfl⟩
  · rintro ⟨all, any, hall, hany, rfl⟩
    exact ⟨all, hall, any, hany, rfl⟩

/-- The scope's condition is among those that every row of a page has to meet. -/
theorem demands_filter {f : Filter} (h : filter t scope r = .ok f) :
    f.Demands scope.column (t.bound scope) := by
  obtain ⟨all, any, -, -, rfl⟩ := filter_eq_ok_iff.1 h
  exact List.mem_cons_self

/-! ### The two statements

Both are made at once, from one filter. -/

/-- The statements of a page are what its columns, its filter and its order are made into. -/
theorem statements_eq_ok_iff {s : Statements} :
    statements t scope r w = .ok s ↔
      ∃ columns f terms, selectColumns t r.select = .ok columns ∧ filter t scope r = .ok f ∧
        order t r.orderBy = .ok terms ∧
        s = ⟨{ outputs := columns.map (t.output none), table := t.sqlName, filter := f
               order := terms, extent := .slice w.limit w.offset }, (t.sqlName, f)⟩ := by
  simp only [statements, bind_eq_ok_iff, pure_eq_ok_iff]
  constructor
  · rintro ⟨columns, hcolumns, f, hf, terms, hterms, rfl⟩
    exact ⟨columns, f, terms, hcolumns, hf, hterms, rfl⟩
  · rintro ⟨columns, f, terms, hcolumns, hf, hterms, rfl⟩
    exact ⟨columns, hcolumns, f, hf, terms, hterms, rfl⟩

/-- The page is bound to the scope. -/
theorem boundTo_page {s : Statements} (h : statements t scope r w = .ok s) :
    s.page.BoundTo t.sqlName scope.column (t.bound scope) := by
  obtain ⟨columns, f, terms, -, hf, -, rfl⟩ := statements_eq_ok_iff.1 h
  exact ⟨rfl, rfl, rfl, demands_filter hf⟩

/-- So is the count. -/
theorem boundTo_total {s : Statements} (h : statements t scope r w = .ok s) :
    s.total.BoundTo t.sqlName scope.column (t.bound scope) := by
  obtain ⟨columns, f, terms, -, hf, -, rfl⟩ := statements_eq_ok_iff.1 h
  exact ⟨rfl, demands_filter hf⟩

/-! ### Columns

The columns that are selected and sorted by are collected one by one; the invariant of both
collections is that all of them are columns of the table. -/

/-- All columns selected so far are columns of the table. -/
def Selection.IsWithin (t : Table) (s : Selection) : Prop := ∀ c ∈ s.columns, c ∈ t.columns

/-- One more name selects a column of the table, or nothing. -/
theorem Selection.isWithin_add {s : Selection} (hs : s.IsWithin t) (name : String) :
    (s.add t name).IsWithin t := by
  unfold add
  dsimp only
  split
  · exact hs
  · split
    · next hcolumn =>
      intro c hc
      rcases List.mem_append.1 hc with hc | hc
      · exact hs c hc
      · obtain rfl := List.mem_singleton.1 hc
        exact Table.hasColumn_iff.1 hcolumn
    · exact hs

/-- The columns selected are columns of the table. -/
theorem mem_columns_of_selectColumns {names columns : List String}
    (h : selectColumns t names = .ok columns) : ∀ c ∈ columns, c ∈ t.columns := by
  unfold selectColumns at h
  split at h
  · cases h
    exact fun c hc => hc
  · dsimp only at h
    split at h
    · cases h
    · split at h
      · cases h
      · cases h
        have hall : (names.foldl (Selection.add t) {}).IsWithin t :=
          List.foldlRecOn names _ (by simp [Selection.IsWithin]) fun s hs name _ =>
            Selection.isWithin_add hs name
        exact hall

/-- The terms of an order name columns of the table, without an alias. -/
def Ordering.IsWithin (t : Table) (o : Ordering) : Prop :=
  ∀ k ∈ o.terms, k.1.qualifier = none ∧ k.1.name ∈ t.columns

/-- One more term sorts by a column of the table, or adds nothing. -/
theorem Ordering.isWithin_add {o : Ordering} (ho : o.IsWithin t) (term : OrderTerm × Nat) :
    (o.add t term).IsWithin t := by
  unfold add
  dsimp only
  split
  · exact ho
  · split
    · exact ho
    · next hcolumn =>
      split
      · intro k hk
        rcases List.mem_append.1 hk with hk | hk
        · exact ho k hk
        · obtain rfl := List.mem_singleton.1 hk
          refine ⟨rfl, ?_⟩
          simpa [Table.hasColumn] using hcolumn
      · exact ho

/-- The columns sorted by are columns of the table. -/
theorem mem_columns_of_order {terms : List OrderTerm} {result : List (ColumnName × Direction)}
    (h : order t terms = .ok result) :
    ∀ k ∈ result, k.1.qualifier = none ∧ k.1.name ∈ t.columns := by
  unfold order at h
  dsimp only at h
  split at h
  · cases h
    have hall : (terms.zipIdx.foldl (Ordering.add t) {}).IsWithin t :=
      List.foldlRecOn terms.zipIdx _ (by simp [Ordering.IsWithin]) fun o ho term _ =>
        Ordering.isWithin_add ho term
    exact hall
  · cases h

end TenantGate.Page
