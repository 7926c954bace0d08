import TenantGate.Table.Basic
/-!
# Tenants

A tenant is named by a trimmed, non-empty text. In a table the tenant of a row stands in a tenant
column; a `Scope` is that column together with the tenant's name coerced to the column's kind, and
every statement is bound to one.
-/

namespace TenantGate

/-- The name of a tenant. -/
structure Tenant where
  text : String
  trimmed : Text.trim text = text
  nonempty : text ≠ ""
  deriving DecidableEq

/-- The tenant that a text names, blanks around it aside. -/
def Tenant.read (raw : String) : Except Failure Tenant :=
  if h : Text.trim raw = "" then .error (.badRequest .tenantRequired)
  else .ok ⟨Text.trim raw, Text.trim_trim raw, h⟩

/-- The names of tenant columns, the preferred one and one for older tables. -/
structure TenantNaming where
  preferred : String
  legacy : Option String
  deriving DecidableEq

namespace TenantNaming

/-- The names in use unless others are set. -/
def defaultPreferred : String := "company_id"

@[inherit_doc defaultPreferred]
def defaultLegacy : String := "com_id"

/-- Tenant column names; a blank one for older tables counts as none. -/
def ofNames (preferred : String) (legacy : Option String) : TenantNaming :=
  ⟨preferred, legacy.filter fun l => Text.trim l ≠ ""⟩

def default : TenantNaming := ofNames defaultPreferred (some defaultLegacy)

/-- The tenant column of a table, the preferred one if it has both. -/
def columnOf? (c : TenantNaming) (t : Table) : Option String :=
  if t.hasColumn c.preferred then some c.preferred else c.legacy.filter t.hasColumn

/-- The tenant column of a table that must have one. -/
def demandColumn (c : TenantNaming) (t : Table) : Except Failure String :=
  match c.columnOf? t with
  | some column => .ok column
  | none => .error (.field c.preferred (.noTenantColumn c.preferred))

/-- Either of the names; callers never write such a column. -/
def covers (c : TenantNaming) (column : String) : Bool :=
  column == c.preferred || c.legacy == some column

end TenantNaming

/-- The tenant column of a table and the value it must have. -/
structure Scope where
  column : String
  value : Sql.Value
  deriving DecidableEq

def Scope.ofTable (t : Table) (columns : TenantNaming) (tenant : Tenant) :
    Except Failure Scope := do
  let column ← columns.demandColumn t
  let value ← coerceField column (t.kindOf? column) (.string tenant.text)
  return ⟨column, value⟩

end TenantGate
