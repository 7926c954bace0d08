import TenantGate.Query.Reading
/-!
# Planning query expressions

A query expression becomes a statement over the tables that it names. Every table is bound to its
alias, every bound table that has a tenant column is held to the tenant, and the base table must
have one. Only then are the names in the expression looked up.
-/

namespace TenantGate.Query

open Sql

/-- A table under the alias it is used with. -/
structure BoundTable where
  aliasName : String
  table : Table
  deriving DecidableEq

/-- A column of a bound table. -/
structure BoundColumn where
  source : BoundTable
  column : String
  deriving DecidableEq

def BoundColumn.name (r : BoundColumn) : ColumnName := ⟨some r.source.aliasName, r.column⟩

/-! ### Tables -/

/-- The field that the join at `i` is reported under. -/
def joinField (i : Nat) : String := "joins[" ++ Number.natText i ++ "].table"

def bindBase (tables : Dict Table) (base : NamedTable) : Except Failure BoundTable :=
  if !isIdentifier base.table then .error (.field "table" .invalid)
  else if !isIdentifier base.aliasName then .error (.field "table" .invalidAlias)
  else
    match tables.get? base.table with
    | some t => .ok ⟨base.aliasName, t⟩
    | none => .error (.field "table" .unknown)

/-- Bind the tables of joins, the first of which is at `i`, after those bound already. -/
def bindJoins (tables : Dict Table) (i : Nat) (bound : List BoundTable) :
    List JoinClause → Except Failure (List BoundTable)
  | [] => .ok bound
  | j :: joins =>
    if !isIdentifier j.target.table || !isIdentifier j.target.aliasName then
      .error (.field (joinField i) .invalid)
    else if bound.any (·.aliasName == j.target.aliasName) then
      .error (.field "join" .duplicateAlias)
    else
      match tables.get? j.target.table with
      | none => .error (.field (joinField i) .unknown)
      | some t => bindJoins tables (i + 1) (bound ++ [⟨j.target.aliasName, t⟩]) joins

/-- The conditions that hold the bound tables to a tenant, one for each that has a tenant column.
-/
def tenantConditions (columns : TenantNaming) (tenant : Tenant) :
    List BoundTable → Except Failure (List Condition)
  | [] => .ok []
  | b :: bound =>
    match columns.columnOf? b.table with
    | none => tenantConditions columns tenant bound
    | some _ => do
      let scope ← Scope.ofTable b.table columns tenant
      let rest ← tenantConditions columns tenant bound
      return .compare ⟨some b.aliasName, scope.column⟩ .equal
        (b.table.bind scope.column scope.value)
        :: rest

/-! ### Columns -/

/-- Look up a column; one without an alias belongs to the base table. -/
def resolve (bound : List BoundTable) (baseAlias : String) (r : NamedColumn) :
    Except Failure BoundColumn :=
  match bound.find? (·.aliasName == r.qualifier.getD baseAlias) with
  | none => .error (.field r.written .unknownAlias)
  | some b =>
    let column := b.table.resolve r.column
    if isIdentifier column && b.table.hasColumn column then .ok ⟨b, column⟩
    else .error (.field r.written .unknownField)

/-- What the columns looked up so far select. -/
structure Selection where
  /-- The columns met, by alias and name. -/
  picked : List (String × String) := []
  /-- The names taken in the row. -/
  names : List String := []
  outputs : List Output := []

/-- Add a column. One met before adds nothing; one whose name is taken appears under its alias and
its name, and if that is taken as well there is no name for it. -/
def Selection.add (s : Selection) (r : BoundColumn) : Option Selection :=
  let key := (r.source.aliasName, r.column)
  if s.picked.contains key then some s
  else
    let picked := key :: s.picked
    if !s.names.contains r.column then
      some ⟨picked, r.column :: s.names,
        s.outputs ++ [r.source.table.output (some r.source.aliasName) r.column]⟩
    else
      let label := r.source.aliasName ++ "_" ++ r.column
      if s.names.contains label then none
      else some ⟨picked, label :: s.names,
        s.outputs ++ [⟨r.name, r.source.table.isReadAsText r.column, some label⟩]⟩

/-- Look up and add the columns of a select list. -/
def selectFrom (bound : List BoundTable) (baseAlias : String) (s : Selection) :
    List NamedColumn → Except Failure Selection
  | [] => .ok s
  | r :: rest => do
    let column ← resolve bound baseAlias r
    match s.add column with
    | some s => selectFrom bound baseAlias s rest
    | none => .error (.field r.written .duplicateName)

/-- The select list: that of the expression, or all columns of the base table. -/
def outputs (bound : List BoundTable) (base : BoundTable) (select : List NamedColumn) :
    Except Failure (List Output) :=
  if select.isEmpty then .ok (base.table.columns.map (base.table.output (some base.aliasName)))
  else do return (← selectFrom bound base.aliasName {} select).outputs

/-! ### Joins, conditions and order -/

def planJoin (bound : List BoundTable) (baseAlias : String) (j : JoinClause × BoundTable) :
    Except Failure Join := do
  let (clause, source) := j
  let left ← resolve bound baseAlias clause.left
  let right ← resolve bound baseAlias clause.right
  return ⟨source.table.sqlName, source.aliasName, left.name, right.name⟩

def planWhere (bound : List BoundTable) (baseAlias : String) (w : WhereClause) :
    Except Failure Condition := do
  let r ← resolve bound baseAlias w.column
  match w.op with
  | .like => return .resembles r.name (Page.textPattern w.value.toJson)
  | .compare op =>
    let v ← coerceField w.column.written (r.source.table.kindOf? r.column) w.value.toJson
    return .compare r.name op (r.source.table.bind r.column v)

def planOrder (bound : List BoundTable) (baseAlias : String) (o : OrderClause) :
    Except Failure (ColumnName × Direction) := do
  let r ← resolve bound baseAlias o.column
  return (r.name, o.direction)

/-- The statement of a query expression over the tables given by name. -/
def plan (e : Expression) (tenant : Tenant) (tables : Dict Table) (columns : TenantNaming) :
    Except Failure Sql.Query := do
  let base ← bindBase tables e.base
  let bound ← bindJoins tables 0 [base] e.joins
  let _ ← columns.demandColumn base.table
  let tenants ← tenantConditions columns tenant bound
  let outputs ← outputs bound base e.select
  let joins ← (e.joins.zip (bound.drop 1)).mapM (planJoin bound base.aliasName)
  let wheres ← e.wheres.mapM (planWhere bound base.aliasName)
  let order ← e.orderBy.mapM (planOrder bound base.aliasName)
  return {
    outputs
    table := base.table.sqlName
    aliasName := some base.aliasName
    joins
    filter := ⟨tenants ++ wheres, []⟩
    order
    extent := match e.limit with
      | some n => if 0 < n then .atMost n else .everything
      | none => .everything }

end TenantGate.Query
