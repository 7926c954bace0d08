import TenantGate.Table.Catalog
import TenantGate.Tenancy
/-!
# Records

A record is a set of column values fit to be written. `Record.ofPayload` makes one of a caller's
payload: it follows aliases, leaves out every field that callers may not write, coerces the others
by their columns and adds generated times.
-/

namespace TenantGate

abbrev Record := Dict Sql.Value

/-- Whether a record is for a new row or for one that exists. -/
inductive WriteMode where
  | insert
  | update
  deriving DecidableEq, Repr

namespace Record

/-- The column that a payload field is written to; none for a blank name, a column that callers may
not write and a tenant column. -/
def target? (t : Table) (tenants : TenantNaming) (name : String) : Option String :=
  if Text.trim name = "" then none
  else
    let column := t.resolve name
    if t.isWritable column && !tenants.covers column then some column else none

/-- What the fields read so far give: the values that were coerced, and the reasons of those that
were not. -/
structure Draft where
  values : Record := .empty
  failures : Dict Reason := .empty

def Draft.add (t : Table) (tenants : TenantNaming) (d : Draft) (field : String × Json) : Draft :=
  match target? t tenants field.1 with
  | none => d
  | some column =>
    match coerce (t.kindOf? column) field.2 with
    | .ok v => { d with values := d.values.insert column v }
    | .error cause => { d with failures := d.failures.insert column (.coercion cause) }

def stamp (t : Table) (now : Timestamp) (column : String) (r : Record) : Record :=
  if t.hasColumn column then r.insert column (.timestamp now) else r

/-- Set a column of the table that the record does not have yet. -/
def stampMissing (t : Table) (now : Timestamp) (column : String) (r : Record) : Record :=
  if r.contains column then r else stamp t now column r

/-- Add the generated times: both where a new row lacks them, and the second on every change. -/
def addTimes (t : Table) (mode : WriteMode) (now : Timestamp) (r : Record) : Record :=
  match mode with
  | .insert => stampMissing t now Table.updatedAt (stampMissing t now Table.createdAt r)
  | .update => stamp t now Table.updatedAt r

/-- The record that a payload, listed in key order, makes. Of several fields for one column the
last one counts. -/
def ofPayload (t : Table) (tenants : TenantNaming) (mode : WriteMode) (now : Timestamp)
    (payload : List (String × Json)) : Except Failure Record :=
  let d := payload.foldl (Draft.add t tenants) {}
  if !d.failures.isEmpty then .error (.validation d.failures)
  else if d.values.isEmpty then .error (.field "payload" .nothingWritable)
  else .ok (if t.timestamps then addTimes t mode (t.clock.read now) d.values else d.values)

end Record
end TenantGate
