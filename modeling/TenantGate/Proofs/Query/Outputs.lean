import TenantGate.Proofs.Query.Plan
/-!
# Columns of a planned query

Every column of a planned query is a column of a bound table under the alias of that table: in the
select list (`outputs_shows`), in the joins (`planJoin_eq_ok_iff`) and in the order
(`planOrder_eq_ok_iff`).
-/

namespace TenantGate.Query

open Sql

variable {bound : List BoundTable} {baseAlias : String}

/-! ### The select list

The outputs come from columns that were looked up, so each has a bound table as its source. Where
nothing is selected, they are the columns of the base table. -/

/-- The output shows a column of a bound table, under its own name or after the alias. -/
def Shows (bound : List BoundTable) (o : Output) : Prop :=
  ∃ c : BoundColumn, c.source ∈ bound ∧ c.column ∈ c.source.table.columns ∧ o.column = c.name ∧
    ∀ l, o.label = some l → l = c.column ∨ l = c.source.aliasName ++ "_" ++ c.column

theorem shows_output {b : BoundTable} (hb : b ∈ bound) {column : String}
    (h : column ∈ b.table.columns) : Shows bound (b.table.output (some b.aliasName) column) := by
  refine ⟨⟨b, column⟩, hb, h, rfl, ?_⟩
  intro l hl
  unfold Table.output at hl
  dsimp only at hl
  split at hl
  · cases hl
    exact .inl rfl
  · cases hl

theorem Selection.shows_add {s s' : Selection} {c : BoundColumn} (hsource : c.source ∈ bound)
    (hheld : c.column ∈ c.source.table.columns) (hs : ∀ o ∈ s.outputs, Shows bound o)
    (h : s.add c = some s') : ∀ o ∈ s'.outputs, Shows bound o := by
  unfold add at h
  dsimp only at h
  -- a column met before adds nothing; a new one is shown under its own name or, if that is taken,
  -- under the one after its alias
  split at h
  · cases h
    exact hs
  split at h
  · cases h
    intro o ho
    rcases List.mem_append.1 ho with ho | ho
    · exact hs o ho
    · obtain rfl := List.mem_singleton.1 ho
      exact shows_output hsource hheld
  · split at h
    · cases h
    · cases h
      intro o ho
      rcases List.mem_append.1 ho with ho | ho
      · exact hs o ho
      · obtain rfl := List.mem_singleton.1 ho
        refine ⟨c, hsource, hheld, rfl, ?_⟩
        rintro l ⟨⟩
        exact .inr rfl

/-- Every output of a selection shows a column, if all before did. -/
theorem shows_selectFrom (hnodup : (aliases bound).Nodup) {names : List NamedColumn}
    {s s' : Selection} (hs : ∀ o ∈ s.outputs, Shows bound o)
    (h : selectFrom bound baseAlias s names = .ok s') : ∀ o ∈ s'.outputs, Shows bound o := by
  induction names generalizing s with
  | nil =>
    cases h
    exact hs
  | cons name names ih =>
    obtain ⟨c, hc, h⟩ := bind_eq_ok_iff.1 h
    have hdenotes := (resolve_eq_ok_iff hnodup).1 hc
    split at h
    · next s₁ hadd => exact ih (s.shows_add hdenotes.source hdenotes.held hs hadd) h
    · cases h

/-- Every output of a plan shows a column of a bound table. -/
theorem outputs_shows (hnodup : (aliases bound).Nodup) {base : BoundTable} (hbase : base ∈ bound)
    {select : List NamedColumn} {outs : List Output} (h : outputs bound base select = .ok outs) :
    ∀ o ∈ outs, Shows bound o := by
  unfold outputs at h
  split at h
  · cases h
    intro o ho
    obtain ⟨column, hcolumn, rfl⟩ := List.mem_map.1 ho
    exact shows_output hbase hcolumn
  · obtain ⟨s, hs, h⟩ := bind_eq_ok_iff.1 h
    obtain rfl := pure_eq_ok_iff.1 h
    exact shows_selectFrom hnodup (by simp) hs

/-! ### Joins and order

Here columns are looked up and written as they are, and nothing is named. -/

theorem planJoin_eq_ok_iff (hnodup : (aliases bound).Nodup) {j : JoinClause} {source : BoundTable}
    {k : Join} :
    planJoin bound baseAlias (j, source) = .ok k ↔
      ∃ left right, Denotes bound baseAlias j.left left ∧ Denotes bound baseAlias j.right right ∧
        k = ⟨source.table.sqlName, source.aliasName, left.name, right.name⟩ := by
  simp only [planJoin, bind_eq_ok_iff, pure_eq_ok_iff, resolve_eq_ok_iff hnodup]
  constructor
  · rintro ⟨left, hleft, right, hright, rfl⟩
    exact ⟨left, right, hleft, hright, rfl⟩
  · rintro ⟨left, right, hleft, hright, rfl⟩
    exact ⟨left, hleft, right, hright, rfl⟩

theorem planOrder_eq_ok_iff (hnodup : (aliases bound).Nodup) {o : OrderClause}
    {k : ColumnName × Direction} :
    planOrder bound baseAlias o = .ok k ↔
      ∃ c, Denotes bound baseAlias o.column c ∧ k = (c.name, o.direction) := by
  simp only [planOrder, bind_eq_ok_iff, pure_eq_ok_iff, resolve_eq_ok_iff hnodup]

end TenantGate.Query
