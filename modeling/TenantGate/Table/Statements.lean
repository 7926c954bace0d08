import TenantGate.Record
import TenantGate.Sql.Text
/-!
# Statements on single rows

Every statement on a row that exists asks for the row by its key and by its tenant; an update never
assigns either of the two columns.
-/

namespace TenantGate.Table

open Sql

def sqlName (t : Table) : TableName := ⟨t.schema, t.name⟩

def bind (t : Table) (column : String) (v : Value) : Bound := ⟨v, t.parameterType? column⟩

/-- A column in a select list; one that has to be read as text keeps its name. -/
def output (t : Table) (qualifier : Option String) (column : String) : Output :=
  let asText := t.isReadAsText column
  ⟨⟨qualifier, column⟩, asText, if asText then some column else none⟩

def equals (t : Table) (column : String) (v : Value) : Condition :=
  .compare ⟨none, column⟩ .equal (t.bind column v)

/-- The row with a key, within a scope. -/
def rowFilter (t : Table) (scope : Scope) (key : Value) : Filter :=
  ⟨[t.equals scope.column scope.value, t.equals t.primaryKey key], []⟩

def assignments (t : Table) (entries : List (String × Value)) : List Assignment :=
  entries.map fun (column, v) => ⟨column, t.bind column v⟩

def insertRow (t : Table) (r : Record) : Statement :=
  .insert t.sqlName (t.assignments r.entries) (t.output none t.primaryKey)

def selectRow (t : Table) (scope : Scope) (key : Value) : Statement :=
  .select
    { outputs := t.columns.map (t.output none)
      table := t.sqlName
      filter := t.rowFilter scope key
      extent := .first }

/-- Change a row. When the record assigns nothing but the key or the tenant column, ask instead
whether the row is there. -/
def updateRow (t : Table) (scope : Scope) (key : Value) (r : Record) : Statement :=
  let entries := r.entries.filter fun (column, _) => column ≠ t.primaryKey ∧ column ≠ scope.column
  let filter := t.rowFilter scope key
  if entries.isEmpty then
    .select
      { outputs := [⟨⟨none, t.primaryKey⟩, false, none⟩]
        table := t.sqlName
        filter }
  else .update t.sqlName (t.assignments entries) filter

def deleteRow (t : Table) (scope : Scope) (key : Value) : Statement :=
  .delete t.sqlName (t.rowFilter scope key)

/-- A key from a path, trimmed and coerced to the kind of the key column. -/
def readKey (t : Table) (raw : String) : Except Failure Value :=
  let raw := Text.trim raw
  if raw = "" then .error (.field t.primaryKey .required)
  else coerceField t.primaryKey (t.kindOf? t.primaryKey) (.string raw)

end TenantGate.Table
