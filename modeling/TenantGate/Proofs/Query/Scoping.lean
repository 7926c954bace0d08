import TenantGate.Proofs.Query.Outputs
/-!
# Scopes of a planned query

The `FROM` clause of a query introduces aliases, and every other clause may use them. A join
condition stands inside that clause, so it may use only the aliases to its left and its own.
`plan_scoped` says which of this a plan keeps:

    q.IsScoped ∧ q.aliases = e.aliases ∧ q.JoinsWithin ∧ (q.JoinsLookBack ↔ e.JoinsLookBack)

The aliases are distinct and no other one is used; whether the join conditions look back, though,
is up to the expression: a column of a table that is joined later is planned like any other
(`plan_later_table`).
-/

namespace TenantGate

open Sql

namespace Sql

/-! ### Scopes of a statement

Scoping is a property of the statement that is sent. It is said here without the plan that the
statement comes from. -/

/-- The column stands under one of the aliases. -/
def ColumnName.IsUnder (c : ColumnName) (aliases : List String) : Prop :=
  ∃ a ∈ aliases, c.qualifier = some a

def Condition.column : Condition → ColumnName
  | compare column _ _ => column
  | isNull column => column
  | resembles column _ => column

namespace Query

/-- The aliases that the `FROM` clause introduces, from left to right. -/
def aliases (q : Query) : List String := q.aliasName.toList ++ q.joins.map (·.aliasName)

/-- The aliases are distinct, and every column that is shown, asked for or sorted by stands under
one of them. -/
structure IsScoped (q : Query) : Prop where
  nodup : q.aliases.Nodup
  outputs : ∀ o ∈ q.outputs, o.column.IsUnder q.aliases
  filter : ∀ c ∈ q.filter.all ++ q.filter.any, c.column.IsUnder q.aliases
  order : ∀ k ∈ q.order, k.1.IsUnder q.aliases

/-- Every column of a join condition stands under an alias of the clause. -/
def JoinsWithin (q : Query) : Prop :=
  ∀ k ∈ q.joins, k.left.IsUnder q.aliases ∧ k.right.IsUnder q.aliases

/-- Every column of the condition of the `i`-th join stands under the base alias or the alias of a
join up to the `i`-th. -/
def JoinsLookBack (q : Query) : Prop :=
  ∀ (i : Nat) k, q.joins[i]? = some k →
    k.left.IsUnder (q.aliases.take (i + 2)) ∧ k.right.IsUnder (q.aliases.take (i + 2))

end Query
end Sql

namespace Query

/-! ### Scopes of an expression

The same for the expression: its aliases are those that the tables are named under, and a column
without a qualifier belongs to the base table. -/

namespace Expression

/-- The aliases of the tables of an expression, the base first. -/
def aliases (e : Expression) : List String :=
  e.base.aliasName :: e.joins.map (·.target.aliasName)

/-- The alias that a column of the expression belongs to. -/
def aliasOf (e : Expression) (r : NamedColumn) : String := r.qualifier.getD e.base.aliasName

/-- Every column of the condition of the `i`-th join belongs to the base table or to the table of a
join up to the `i`-th. -/
def JoinsLookBack (e : Expression) : Prop :=
  ∀ (i : Nat) j, e.joins[i]? = some j →
    e.aliasOf j.left ∈ e.aliases.take (i + 2) ∧ e.aliasOf j.right ∈ e.aliases.take (i + 2)

end Expression

/-! ### Columns of a plan

Whatever is looked up for a plan has a bound table as its source, and is written after the alias of
that table. -/

variable {tables : Dict Table} {bound : List BoundTable} {baseAlias : String}

theorem Denotes.qualifier_eq {r : NamedColumn} {c : BoundColumn}
    (h : Denotes bound baseAlias r c) : c.name.qualifier = some (r.qualifier.getD baseAlias) := by
  rw [BoundColumn.name, h.aliasName]

theorem isUnder_name {c : BoundColumn} (h : c.source ∈ bound) : c.name.IsUnder (aliases bound) :=
  ⟨c.source.aliasName, List.mem_map_of_mem h, rfl⟩

/-- The conditions on the tenant stand under aliases that are bound. -/
theorem Holds.isUnder {columns : TenantNaming} {tenant : Tenant} {cs : List Condition}
    (h : Holds columns tenant bound cs) : ∀ c ∈ cs, c.column.IsUnder (aliases bound) := by
  induction h with
  | nil => simp
  | @held b bound cs column v hcolumn hvalue rest ih =>
    intro c hc
    rcases List.mem_cons.1 hc with rfl | hc
    · exact ⟨b.aliasName, List.mem_cons_self, rfl⟩
    · obtain ⟨a, ha, hqualifier⟩ := ih c hc
      exact ⟨a, List.mem_cons_of_mem _ ha, hqualifier⟩
  | shared hnone rest ih =>
    intro c hc
    obtain ⟨a, ha, hqualifier⟩ := ih c hc
    exact ⟨a, List.mem_cons_of_mem _ ha, hqualifier⟩

/-- So do those of the expression. -/
theorem Asks.isUnder {w : WhereClause} {c : Condition} (h : Asks bound baseAlias w c) :
    c.column.IsUnder (aliases bound) := by
  obtain ⟨r, hdenotes, hasked⟩ := h
  have hname := isUnder_name hdenotes.source
  split at hasked
  · rw [hasked]
    exact hname
  · obtain ⟨v, -, rfl⟩ := hasked
    exact hname

/-! ### Joins of a plan

Joins are planned after all tables are bound. So a condition of one may name any of them, and it
depends on the expression whether it does. -/

/-- The join is what the clause asks for: its table is under the alias of the clause, and the two
columns are under the aliases that the clause names, which are bound. -/
structure Follows (bound : List BoundTable) (baseAlias : String) (j : JoinClause) (k : Join) :
    Prop where
  aliasName : k.aliasName = j.target.aliasName
  left : k.left.qualifier = some (j.left.qualifier.getD baseAlias)
  right : k.right.qualifier = some (j.right.qualifier.getD baseAlias)
  leftUnder : k.left.IsUnder (aliases bound)
  rightUnder : k.right.IsUnder (aliases bound)

/-- A join that is planned follows its clause. -/
theorem follows_of_planJoin (hnodup : (aliases bound).Nodup) {j : JoinClause} {b : BoundTable}
    {k : Join} (hb : Binds tables j.target b) (h : planJoin bound baseAlias (j, b) = .ok k) :
    Follows bound baseAlias j k := by
  obtain ⟨left, right, hleft, hright, rfl⟩ := (planJoin_eq_ok_iff hnodup).1 h
  exact ⟨hb.aliasName, hleft.qualifier_eq, hright.qualifier_eq, isUnder_name hleft.source,
    isUnder_name hright.source⟩

/-- The joins follow their clauses one by one. -/
theorem forall₂_follows (hnodup : (aliases bound).Nodup) {clauses : List JoinClause}
    {joined : List BoundTable} {joins : List Join}
    (hjoined : List.Forall₂ (fun j b => Binds tables j.target b) clauses joined)
    (hjoins : List.Forall₂ (fun j k => planJoin bound baseAlias j = .ok k) (clauses.zip joined)
      joins) : List.Forall₂ (Follows bound baseAlias) clauses joins := by
  induction hjoined generalizing joins with
  | nil =>
    cases hjoins
    exact .nil
  | cons hb _ ih =>
    cases hjoins with
    | cons hk hrest => exact .cons (follows_of_planJoin hnodup hb hk) (ih hrest)

theorem aliases_of_follows {clauses : List JoinClause} {joins : List Join}
    (h : List.Forall₂ (Follows bound baseAlias) clauses joins) :
    joins.map (·.aliasName) = clauses.map (·.target.aliasName) := by
  induction h with
  | nil => rfl
  | cons hk _ ih => rw [List.map_cons, List.map_cons, hk.aliasName, ih]

theorem aliases_of_binds {clauses : List JoinClause} {joined : List BoundTable}
    (h : List.Forall₂ (fun j b => Binds tables j.target b) clauses joined) :
    aliases joined = clauses.map (·.target.aliasName) := by
  induction h with
  | nil => rfl
  | cons hb _ ih => rw [aliases, List.map_cons, List.map_cons, hb.aliasName, ← ih]

/-- A column with a qualifier stands under that alone. -/
theorem isUnder_iff {c : ColumnName} {a : String} (h : c.qualifier = some a)
    {l : List String} : c.IsUnder l ↔ a ∈ l := by
  constructor
  · rintro ⟨a', ha', heq⟩
    obtain rfl := Option.some.inj (h.symm.trans heq)
    exact ha'
  · intro ha
    exact ⟨a, ha, h⟩

/-- Joins look back exactly if the clauses that they follow do. -/
theorem lookBack_iff_of_follows {clauses : List JoinClause} {joins : List Join}
    (h : List.Forall₂ (Follows bound baseAlias) clauses joins) (scope : Nat → List String) :
    (∀ (i : Nat) k, joins[i]? = some k → k.left.IsUnder (scope i) ∧ k.right.IsUnder (scope i)) ↔
      ∀ (i : Nat) j, clauses[i]? = some j →
        j.left.qualifier.getD baseAlias ∈ scope i ∧ j.right.qualifier.getD baseAlias ∈ scope i := by
  refine forall_congr' fun i => ?_
  -- the two lists are equally long, so that an index is in both or in neither
  by_cases hi : i < clauses.length
  · have hi' : i < joins.length := h.length_eq ▸ hi
    have hk : Follows bound baseAlias clauses[i] joins[i] := h.get hi hi'
    rw [List.getElem?_eq_getElem hi, List.getElem?_eq_getElem hi']
    simp only [Option.some.injEq, forall_eq', isUnder_iff hk.left, isUnder_iff hk.right]
  · have hi' : ¬ i < joins.length := h.length_eq ▸ hi
    rw [List.getElem?_eq_none (Nat.le_of_not_lt hi), List.getElem?_eq_none (Nat.le_of_not_lt hi')]
    simp

/-! ### Plans

A plan is put together from parts, each of which was seen to be scoped. -/

variable {e : Expression} {tenant : Tenant} {columns : TenantNaming} {q : Sql.Query}

/-- In a planned query the aliases of the `FROM` clause are those of the expression and distinct, no
column stands under any other, and a join condition looks ahead exactly where the expression does.
-/
theorem plan_scoped (h : plan e tenant tables columns = .ok q) :
    q.IsScoped ∧ q.aliases = e.aliases ∧ q.JoinsWithin ∧ (q.JoinsLookBack ↔ e.JoinsLookBack) := by
  obtain ⟨base, joined, tenants, outs, joins, wheres, order, hbase, hjoined, hnodup, -, htenants,
    houts, hjoins, hwheres, horder, hq⟩ := plan_eq_ok_iff.1 h
  have hfollows := forall₂_follows hnodup hjoined hjoins
  have hbound : aliases (base :: joined) = e.aliases := by
    rw [Expression.aliases, ← aliases_of_binds hjoined, ← hbase.aliasName]
    rfl
  have haliases : q.aliases = e.aliases := by
    rw [hq, Expression.aliases, ← aliases_of_follows hfollows, ← hbase.aliasName]
    rfl
  have houtputs : ∀ o ∈ q.outputs, o.column.IsUnder (aliases (base :: joined)) := by
    rw [hq]
    intro o ho
    obtain ⟨c, hsource, -, hname, -⟩ := outputs_shows hnodup List.mem_cons_self houts o ho
    rw [hname]
    exact isUnder_name hsource
  have hfilter : ∀ c ∈ q.filter.all ++ q.filter.any,
      c.column.IsUnder (aliases (base :: joined)) := by
    rw [hq, List.append_nil]
    intro c hc
    rcases List.mem_append.1 hc with hc | hc
    · exact htenants.isUnder c hc
    · obtain ⟨w, -, hw⟩ := exists_of_forall₂ hwheres hc
      exact hw.isUnder
  have hsorted : ∀ k ∈ q.order, k.1.IsUnder (aliases (base :: joined)) := by
    rw [hq]
    intro k hk
    obtain ⟨o, -, ho⟩ := exists_of_forall₂ horder hk
    obtain ⟨c, hdenotes, rfl⟩ := (planOrder_eq_ok_iff hnodup).1 ho
    exact isUnder_name hdenotes.source
  have hwithin : ∀ k ∈ q.joins, k.left.IsUnder (aliases (base :: joined)) ∧
      k.right.IsUnder (aliases (base :: joined)) := by
    rw [hq]
    intro k hk
    obtain ⟨j, -, hj⟩ := exists_of_forall₂ hfollows hk
    exact ⟨hj.leftUnder, hj.rightUnder⟩
  -- the bound tables are under the aliases that the query introduces
  rw [hbound, ← haliases] at hnodup houtputs hfilter hsorted hwithin
  refine ⟨⟨hnodup, houtputs, hfilter, hsorted⟩, haliases, hwithin, ?_⟩
  rw [Query.JoinsLookBack, haliases, hq, lookBack_iff_of_follows hfollows fun i => _,
    hbase.aliasName]
  rfl

/-- Three tables joined one after the other, where the last condition names the first two. -/
theorem plan_scoped_three :
    let tables : Dict Table := .ofList
      [("notes", { schema := "public", name := "notes", primaryKey := "id"
                   columns := ["id", "unit_id", "company_id"] }),
        ("units", { schema := "public", name := "units", primaryKey := "id"
                    columns := ["id", "menu_id"] }),
        ("menus", { schema := "public", name := "menus", primaryKey := "id", columns := ["id"] })]
    let e : Expression :=
      { base := ⟨"notes", "n"⟩
        joins := [⟨⟨"units", "u"⟩, ⟨some "u", "id", "u.id"⟩, ⟨none, "unit_id", "unit_id"⟩⟩,
          ⟨⟨"menus", "m"⟩, ⟨some "m", "id", "m.id"⟩, ⟨some "u", "menu_id", "u.menu_id"⟩⟩] }
    let tenant : Tenant := ⟨"7", by decide +kernel, by decide⟩
    ∃ q, plan e tenant tables .default = .ok q ∧ q.IsScoped ∧ q.JoinsLookBack ∧
      q.aliases = ["n", "u", "m"] := by
  intro tables e tenant
  have hsome : (plan e tenant tables .default).toOption.isSome = true := by decide +kernel
  obtain ⟨q, hq⟩ := Option.isSome_iff_exists.1 hsome
  have hplan := toOption_eq_some_iff.1 hq
  obtain ⟨hscoped, haliases, -, hlookBack⟩ := plan_scoped hplan
  refine ⟨q, hplan, hscoped, hlookBack.2 ?_, haliases⟩
  rintro (_ | _ | i) j ⟨⟩ <;> decide

/-- The condition of the first join names the table that is joined second, and a query is planned in
which the alias of that table is used before it is introduced. -/
theorem plan_later_table :
    let tables : Dict Table := .ofList
      [("notes", { schema := "public", name := "notes", primaryKey := "id"
                   columns := ["id", "company_id"] }),
        ("units", { schema := "public", name := "units", primaryKey := "id", columns := ["id"] }),
        ("menus", { schema := "public", name := "menus", primaryKey := "id", columns := ["id"] })]
    let e : Expression :=
      { base := ⟨"notes", "n"⟩
        joins := [⟨⟨"units", "u"⟩, ⟨some "u", "id", "u.id"⟩, ⟨some "m", "id", "m.id"⟩⟩,
          ⟨⟨"menus", "m"⟩, ⟨some "m", "id", "m.id"⟩, ⟨some "n", "id", "n.id"⟩⟩] }
    let tenant : Tenant := ⟨"7", by decide +kernel, by decide⟩
    ∃ q, plan e tenant tables .default = .ok q ∧ ¬ q.JoinsLookBack := by
  intro tables e tenant
  have hfirst : ∃ q, (plan e tenant tables .default).toOption = some q ∧
      q.joins[0]?.map (·.right) = some ⟨some "m", "id"⟩ ∧ q.aliases = ["n", "u", "m"] := by
    have hplanned : (plan e tenant tables .default).toOption.map
        (fun q => (q.joins[0]?.map (·.right), q.aliases)) =
          some (some ⟨some "m", "id"⟩, ["n", "u", "m"]) := by
      decide +kernel
    obtain ⟨q, hq, hjoins⟩ := Option.map_eq_some_iff.1 hplanned
    exact ⟨q, hq, (Prod.mk.inj hjoins).1, (Prod.mk.inj hjoins).2⟩
  obtain ⟨q, hq, hright, haliases⟩ := hfirst
  refine ⟨q, toOption_eq_some_iff.1 hq, ?_⟩
  intro hlookBack
  obtain ⟨k, hk, hname⟩ := Option.map_eq_some_iff.1 hright
  obtain ⟨a, ha, hunder⟩ := (hlookBack 0 k hk).2
  rw [hname] at hunder
  obtain rfl : "m" = a := Option.some.inj hunder
  rw [haliases] at ha
  revert ha
  decide

end Query
end TenantGate
