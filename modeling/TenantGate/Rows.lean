import TenantGate.Page.Statements
import TenantGate.DenyList
import TenantGate.Query.Plan
import TenantGate.Table.Source
/-!
# Reaching rows

Every operation on rows goes through a `TenantTable`: a table that is not denied, with the scope
of one tenant. The operations send one statement each, a page with totals two.
-/

namespace TenantGate

open Server

/-- What an operation has to know besides its tenant: where tables come from, which of them are
denied, and how tenant columns are named. -/
structure Gate where
  source : TableSource
  denials : DenyList
  tenants : TenantNaming

/-- A table within the scope of a tenant. -/
structure TenantTable where
  table : Table
  scope : Scope
  deriving DecidableEq

/-- Let a tenant through to the table that a caller names. -/
def Gate.enter (g : Gate) (raw : String) (tenant : Tenant) : Action TenantTable := do
  let name ← Action.ofExcept (g.denials.permittedName raw)
  let table ← g.source.find name
  let scope ← Action.ofExcept (Scope.ofTable table g.tenants tenant)
  return ⟨table, scope⟩

namespace TenantTable

/-- Add a row with the tenant column set to the tenant, and give its key. -/
def insert (t : TenantTable) (r : Record) : Action Json := do
  let result ← Action.execute (t.table.insertRow (r.insert t.scope.column t.scope.value))
  match result.rows with
  | row :: _ => return row.value t.table.primaryKey
  | [] => throw (.database .rowNotFound)

/-- The failure of an operation on a row that the tenant does not have. -/
def missing (t : TenantTable) (key : Sql.Value) : Failure := .notFound t.table.name key.display

def find (t : TenantTable) (key : Sql.Value) : Action Json := do
  let result ← Action.execute (t.table.selectRow t.scope key)
  match result.rows with
  | row :: _ => return row.toJson
  | [] => throw (t.missing key)

def update (t : TenantTable) (key : Sql.Value) (r : Record) : Action Unit := do
  let result ← Action.execute (t.table.updateRow t.scope key r)
  if result.affected = 0 then throw (t.missing key)

def delete (t : TenantTable) (key : Sql.Value) : Action Unit := do
  let result ← Action.execute (t.table.deleteRow t.scope key)
  if result.affected = 0 then throw (t.missing key)

def readTotal (result : Result) : Except Failure Int64 :=
  match result.rows with
  | [] => .error (.database .rowNotFound)
  | row :: _ =>
    match row.wideInt "total" with
    | .ok n => .ok n
    | .error f => .error (.database f)

/-- What is said about a page. -/
def describe (w : Window) (hasMore : Bool) (total : Option Int64) : Except Failure PageInfo :=
  match PageInfo.ofWindow? w hasMore total with
  | some paging => .ok paging
  | none => .error .pagesOutOfRange

/-- Read a page, after the count of all rows if that is wanted. -/
def page (t : TenantTable) (r : Listing) (defaultSize : Int64) :
    Action (List Json × PageInfo) := do
  let window := r.window defaultSize
  let statements ← Action.ofExcept (Page.statements t.table t.scope r window)
  let total ←
    if r.withTotal then do
      let result ← Action.execute statements.total
      some <$> Action.ofExcept (readTotal result)
    else pure none
  let result ← Action.execute statements.page
  let (rows, hasMore) := Window.cut window.perPage (result.rows.map Row.toJson)
  let paging ← Action.ofExcept (describe window hasMore total)
  return (rows, paging)

end TenantTable

/-! ### Query expressions -/

/-- Whether a failure only says that a table does not exist. -/
def isTableNotFound : Failure → Bool
  | .validation fields => fields.get? "table" = some .notFound
  | _ => false

/-- Find the tables of an expression by name. Names that are no identifiers and unknown names are
left out; the plan reports them where they stand. -/
def Gate.findTables (g : Gate) (found : Dict Table) : List String → Action (Dict Table)
  | [] => return found
  | name :: names => do
    if !Sql.isIdentifier name || found.contains name then g.findTables found names
    else
      let table? : Option Table ←
        tryCatch (some <$> g.source.findReadable name) fun failure =>
          if isTableNotFound failure then pure none else throw failure
      match table? with
      | some t => g.findTables (found.insert name t) names
      | none => g.findTables found names

/-- Read a query expression, plan it over the tables it names and give its rows. -/
def Gate.answer (g : Gate) (greatestLimit : Int64) (tenant : Tenant) (text : String) :
    Action (List Json) := do
  let e ← Action.ofExcept (Query.Expression.read text)
  let e := { e with limit := some (Query.limitWithin e.limit greatestLimit) }
  if !e.tables.all g.denials.permits then throw (.field "table" .notAllowed)
  let tables ← g.findTables .empty e.tables
  let q ← Action.ofExcept (Query.plan e tenant tables g.tenants)
  let result ← Action.execute (.select q)
  return result.rows.map Row.toJson

end TenantGate
