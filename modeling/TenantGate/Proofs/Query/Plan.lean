import TenantGate.Query.Plan
import TenantGate.Proofs.Outcome
import TenantGate.Proofs.Tenancy.Scope
/-!
# What a plan is made of

`plan_eq_ok_iff` takes a planned query apart into the results of its steps, and each step is said
without the step: `Binds` what it is to bind a table, `Denotes` what a column of the expression
means, `Holds` which conditions hold tables to a tenant, `Asks` what a condition of the expression
becomes.
-/

namespace TenantGate.Query

open Sql

/-! ### Tables

The base table is bound first, and each join binds one more table under an alias that none before it
has. -/

/-- The table that an expression names, under its alias. -/
structure Binds (tables : Dict Table) (n : NamedTable) (b : BoundTable) : Prop where
  identTable : isIdentifier n.table = true
  identAlias : isIdentifier n.aliasName = true
  aliasName : b.aliasName = n.aliasName
  table : tables.get? n.table = some b.table

variable {tables : Dict Table}

/-- The base table is bound if it is known and both of its names are identifiers. -/
theorem bindBase_eq_ok_iff {n : NamedTable} {b : BoundTable} :
    bindBase tables n = .ok b ↔ Binds tables n b := by
  unfold bindBase
  constructor
  · intro h
    split at h
    · cases h
    next htable =>
    split at h
    · cases h
    next halias =>
    split at h
    · next t ht =>
      cases h
      exact ⟨by simpa using htable, by simpa using halias, rfl, ht⟩
    · cases h
  · rintro ⟨htable, halias, hname, ht⟩
    obtain ⟨aliasName, t⟩ := b
    obtain rfl : aliasName = n.aliasName := hname
    rw [if_neg (by simp [htable]), if_neg (by simp [halias]), ht]

/-- A name means one table. -/
theorem Binds.unique {n : NamedTable} {b b' : BoundTable} (h : Binds tables n b)
    (h' : Binds tables n b') : b = b' := by
  obtain ⟨aliasName, t⟩ := b
  obtain ⟨aliasName', t'⟩ := b'
  obtain rfl : t = t' := Option.some.inj (h.table.symm.trans h'.table)
  obtain rfl : aliasName = aliasName' := h.aliasName.trans h'.aliasName.symm
  rfl

abbrev aliases (bound : List BoundTable) : List String := bound.map (·.aliasName)

theorem any_alias_iff {bound : List BoundTable} {a : String} :
    (bound.any (·.aliasName == a)) = true ↔ a ∈ aliases bound := by
  rw [List.any_eq_true, List.mem_map]
  simp only [beq_iff_eq]

/-- A join binds its table under an alias that is new, and the joins after it go on. -/
theorem bindJoins_cons_eq_ok_iff {i : Nat} {bound result : List BoundTable} {j : JoinClause}
    {joins : List JoinClause} :
    bindJoins tables i bound (j :: joins) = .ok result ↔
      ∃ b, Binds tables j.target b ∧ b.aliasName ∉ aliases bound ∧
        bindJoins tables (i + 1) (bound ++ [b]) joins = .ok result := by
  rw [bindJoins]
  constructor
  · intro h
    split at h
    · cases h
    next hident =>
    split at h
    · cases h
    next hfresh =>
    split at h
    · cases h
    next t ht =>
    rw [any_alias_iff] at hfresh
    simp only [Bool.not_eq_true, Bool.or_eq_false_iff, Bool.not_eq_false'] at hident
    exact ⟨⟨j.target.aliasName, t⟩, ⟨hident.1, hident.2, rfl, ht⟩, hfresh, h⟩
  · rintro ⟨⟨aliasName, t⟩, hb, hfresh, h⟩
    obtain rfl : aliasName = j.target.aliasName := hb.aliasName
    rw [← any_alias_iff] at hfresh
    rw [if_neg (by simp [hb.identTable, hb.identAlias]), if_neg hfresh, hb.table]
    exact h

/-- A further table keeps the aliases apart exactly if its own is new. -/
theorem nodup_aliases_append {bound : List BoundTable} (hnodup : (aliases bound).Nodup)
    (b : BoundTable) : (aliases (bound ++ [b])).Nodup ↔ b.aliasName ∉ aliases bound := by
  rw [aliases, List.map_append, List.map_singleton, List.nodup_append]
  simp [hnodup]

/-- Joins bind their tables in order, under aliases that are new. -/
theorem bindJoins_eq_ok_iff {i : Nat} {bound result : List BoundTable} {joins : List JoinClause}
    (hnodup : (aliases bound).Nodup) :
    bindJoins tables i bound joins = .ok result ↔
      ∃ joined, result = bound ++ joined ∧
        List.Forall₂ (fun j b => Binds tables j.target b) joins joined ∧
        (aliases result).Nodup := by
  -- The induction is on the joins; `bound` are the tables so far, and their aliases are apart.
  induction joins generalizing i bound with
  | nil =>
    rw [bindJoins, Except.ok.injEq]
    constructor
    · rintro rfl
      exact ⟨[], by simp, .nil, hnodup⟩
    · rintro ⟨joined, rfl, hjoined, -⟩
      cases hjoined
      rw [List.append_nil]
  | cons j joins ih =>
    rw [bindJoins_cons_eq_ok_iff]
    constructor
    · rintro ⟨b, hb, hfresh, h⟩
      have hnew := (nodup_aliases_append hnodup b).2 hfresh
      obtain ⟨joined, rfl, hjoined, hresult⟩ := (ih hnew).1 h
      exact ⟨b :: joined, (List.append_cons _ _ _).symm, .cons hb hjoined, hresult⟩
    · rintro ⟨joined, rfl, hjoined, hresult⟩
      cases hjoined with
      | @cons _ b _ joined hb hjoined =>
        have happ := List.append_cons bound b joined
        have hnew : (aliases (bound ++ [b])).Nodup := by
          rw [happ, aliases, List.map_append] at hresult
          exact (List.nodup_append.1 hresult).1
        exact ⟨b, hb, (nodup_aliases_append hnodup b).1 hnew,
          (ih hnew).2 ⟨joined, happ, hjoined, hresult⟩⟩

/-! ### Columns

A column is looked up under its alias, so with two tables under one alias only the first would be
found. Aliases are apart, and a name therefore denotes one column or none. -/

/-- The column that an expression names, in the table with its alias or in the base table. -/
structure Denotes (bound : List BoundTable) (baseAlias : String) (r : NamedColumn)
    (c : BoundColumn) : Prop where
  source : c.source ∈ bound
  aliasName : c.source.aliasName = r.qualifier.getD baseAlias
  column : c.column = c.source.table.resolve r.column
  ident : isIdentifier c.column = true
  held : c.column ∈ c.source.table.columns

variable {bound : List BoundTable} {baseAlias : String}

/-- With aliases apart, the table with an alias is the one that is found under it. -/
theorem find?_alias_iff (hnodup : (aliases bound).Nodup) {a : String} {b : BoundTable} :
    bound.find? (·.aliasName == a) = some b ↔ b ∈ bound ∧ b.aliasName = a := by
  constructor
  · intro h
    exact ⟨List.mem_of_find?_eq_some h, by simpa using List.find?_some h⟩
  · rintro ⟨hb, rfl⟩
    induction bound with
    | nil => cases hb
    | cons b' bound ih =>
      obtain ⟨hnew, hrest⟩ := List.nodup_cons.1 hnodup
      rcases List.mem_cons.1 hb with rfl | hb
      · rw [List.find?_cons_of_pos (by simp)]
      -- a table before it is under another alias
      · have hne : b'.aliasName ≠ b.aliasName := by
          intro heq
          apply hnew
          exact List.mem_map.2 ⟨b, hb, heq.symm⟩
        rw [List.find?_cons_of_neg (by simpa using hne), ih hrest hb]

/-- A look-up gives what the name denotes. -/
theorem resolve_eq_ok_iff (hnodup : (aliases bound).Nodup) {r : NamedColumn} {c : BoundColumn} :
    resolve bound baseAlias r = .ok c ↔ Denotes bound baseAlias r c := by
  unfold resolve
  constructor
  · intro h
    split at h
    · cases h
    next b hb =>
    obtain ⟨hmem, hname⟩ := (find?_alias_iff hnodup).1 hb
    dsimp only at h
    split at h
    · next hcolumn =>
      cases h
      rw [Bool.and_eq_true, Table.hasColumn_iff] at hcolumn
      exact ⟨hmem, hname, rfl, hcolumn.1, hcolumn.2⟩
    · cases h
  · intro h
    obtain ⟨b, column⟩ := c
    obtain rfl : column = b.table.resolve r.column := h.column
    rw [(find?_alias_iff hnodup).2 ⟨h.source, h.aliasName⟩]
    dsimp only
    rw [if_pos]
    rw [Bool.and_eq_true, Table.hasColumn_iff]
    exact ⟨h.ident, h.held⟩

/-- A column of an expression means one column. -/
theorem Denotes.unique (hnodup : (aliases bound).Nodup) {r : NamedColumn} {c c' : BoundColumn}
    (h : Denotes bound baseAlias r c) (h' : Denotes bound baseAlias r c') : c = c' :=
  Except.ok.inj (((resolve_eq_ok_iff hnodup).2 h).symm.trans ((resolve_eq_ok_iff hnodup).2 h'))

/-! ### Conditions

Tables are held to the tenant one by one, each by its own tenant column. A joined table may lack
one; it is not held to anything. -/

/-- The conditions hold the tables to a tenant: one for each table that has a tenant column, in the
order of the tables, and none for a table without one. -/
inductive Holds (columns : TenantNaming) (tenant : Tenant) :
    List BoundTable → List Condition → Prop
  | nil : Holds columns tenant [] []
  | held {b : BoundTable} {bound : List BoundTable} {cs : List Condition} {column : String}
      {v : Value} (hcolumn : columns.IsColumnOf b.table column)
      (hvalue : coerce (b.table.kindOf? column) (.string tenant.text) = .ok v)
      (rest : Holds columns tenant bound cs) :
      Holds columns tenant (b :: bound)
        (.compare ⟨some b.aliasName, column⟩ .equal ⟨v, b.table.parameterType? column⟩ :: cs)
  | shared {b : BoundTable} {bound : List BoundTable} {cs : List Condition}
      (hnone : ∀ column, ¬ columns.IsColumnOf b.table column)
      (rest : Holds columns tenant bound cs) : Holds columns tenant (b :: bound) cs

variable {columns : TenantNaming} {tenant : Tenant}

/-- What is made for the tables holds them to the tenant. -/
theorem tenantConditions_eq_ok_iff {cs : List Condition} :
    tenantConditions columns tenant bound = .ok cs ↔ Holds columns tenant bound cs := by
  induction bound generalizing cs with
  | nil =>
    rw [tenantConditions, Except.ok.injEq]
    constructor
    · rintro rfl
      exact .nil
    · rintro ⟨⟩
      rfl
  | cons b bound ih =>
    rw [tenantConditions]
    cases hcolumn : columns.columnOf? b.table with
    | none =>
      -- no column can be the tenant column, or it would have been found
      have hnone : ∀ column, ¬ columns.IsColumnOf b.table column := by
        intro column h
        rw [TenantNaming.columnOf?_eq_some_iff.2 h] at hcolumn
        cases hcolumn
      constructor
      · intro h
        exact .shared hnone (ih.1 h)
      · intro h
        cases h with
        | held h _ _ => exact absurd h (hnone _)
        | shared _ rest => exact ih.2 rest
    | some column =>
      simp only [bind_eq_ok_iff, pure_eq_ok_iff, Scope.ofTable_eq_ok_iff, ih]
      constructor
      · rintro ⟨scope, ⟨hc, hv⟩, rest, hrest, rfl⟩
        exact .held hc hv hrest
      · intro h
        cases h with
        | held hc hv rest => exact ⟨⟨_, _⟩, ⟨hc, hv⟩, _, rest, rfl⟩
        | shared hnone _ => exact absurd (TenantNaming.columnOf?_eq_some_iff.1 hcolumn) (hnone _)

/-- What a condition of the expression asks of the column it names. -/
def Asks (bound : List BoundTable) (baseAlias : String) (w : WhereClause) (c : Condition) : Prop :=
  ∃ r, Denotes bound baseAlias w.column r ∧
    match w.op with
    | .like => c = .resembles r.name (Page.textPattern w.value.toJson)
    | .compare op =>
      ∃ v, coerce (r.source.table.kindOf? r.column) w.value.toJson = .ok v ∧
        c = .compare r.name op ⟨v, r.source.table.parameterType? r.column⟩

/-- What is made of a condition is what it asks for. -/
theorem planWhere_eq_ok_iff (hnodup : (aliases bound).Nodup) {w : WhereClause} {c : Condition} :
    planWhere bound baseAlias w = .ok c ↔ Asks bound baseAlias w c := by
  rw [planWhere, bind_eq_ok_iff, Asks]
  refine exists_congr fun r => and_congr (resolve_eq_ok_iff hnodup) ?_
  cases w.op with
  | like => exact pure_eq_ok_iff
  | compare op =>
    simp only [bind_eq_ok_iff, pure_eq_ok_iff, coerceField_eq_ok_iff]
    rfl

/-! ### The whole plan

All steps of a plan are taken in one order and the first that fails ends it. For a plan that is made
the order no longer matters. -/

/-- The extent of a query with a limit; a limit that is not positive is none. -/
def extentOf (limit : Option Int64) : Extent :=
  match limit with
  | some n => if 0 < n then .atMost n else .everything
  | none => .everything

/-- A plan is what its steps give: the tables bound, the base table with a tenant column, and then
the names of the expression looked up. -/
theorem plan_eq_ok_iff {e : Expression} {q : Sql.Query} :
    plan e tenant tables columns = .ok q ↔
      ∃ base joined tenants outs joins wheres order,
        Binds tables e.base base ∧
        List.Forall₂ (fun j b => Binds tables j.target b) e.joins joined ∧
        (aliases (base :: joined)).Nodup ∧
        (∃ column, columns.IsColumnOf base.table column) ∧
        Holds columns tenant (base :: joined) tenants ∧
        outputs (base :: joined) base e.select = .ok outs ∧
        List.Forall₂ (fun j k => planJoin (base :: joined) base.aliasName j = .ok k)
          (e.joins.zip joined) joins ∧
        List.Forall₂ (Asks (base :: joined) base.aliasName) e.wheres wheres ∧
        List.Forall₂ (fun o k => planOrder (base :: joined) base.aliasName o = .ok k)
          e.orderBy order ∧
        q = { outputs := outs, table := base.table.sqlName, aliasName := some base.aliasName, joins
              filter := ⟨tenants ++ wheres, []⟩, order, extent := extentOf e.limit } := by
  simp only [plan, bind_eq_ok_iff, mapM_eq_ok_iff, pure_eq_ok_iff, bindBase_eq_ok_iff,
    tenantConditions_eq_ok_iff, TenantNaming.demandColumn_eq_ok_iff]
  constructor
  · rintro ⟨base, hbase, bound, hbound, column, hcolumn, tenants, htenants, outs, houts, joins,
      hjoins, wheres, hwheres, order, horder, rfl⟩
    obtain ⟨joined, rfl, hjoined, hnodup⟩ := (bindJoins_eq_ok_iff (by simp)).1 hbound
    refine ⟨base, joined, tenants, outs, joins, wheres, order, hbase, hjoined, hnodup,
      ⟨column, hcolumn⟩, htenants, houts, hjoins, ?_, horder, rfl⟩
    exact hwheres.imp fun w c h => (planWhere_eq_ok_iff hnodup).1 h
  · rintro ⟨base, joined, tenants, outs, joins, wheres, order, hbase, hjoined, hnodup,
      ⟨column, hcolumn⟩, htenants, houts, hjoins, hwheres, horder, rfl⟩
    refine ⟨base, hbase, base :: joined,
      (bindJoins_eq_ok_iff (by simp)).2 ⟨joined, rfl, hjoined, hnodup⟩, column, hcolumn, tenants,
      htenants, outs, houts, joins, hjoins, wheres, ?_, order, horder, rfl⟩
    exact hwheres.imp fun w c h => (planWhere_eq_ok_iff hnodup).2 h

end TenantGate.Query
