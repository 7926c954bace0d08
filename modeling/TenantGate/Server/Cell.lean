import TenantGate.Json.Document
import TenantGate.Json.Printer
import TenantGate.Time.Timestamp
import TenantGate.Failure
/-!
# Result rows

A reply lists its columns by name and its rows as cells. `Row.toJson` is the JSON object of a row;
a cell of a type that cannot be read is `null` in it, as is a missing value.
-/

namespace TenantGate.Server

/-- The widths of the integer types. -/
inductive IntWidth where
  | two
  | four
  | eight
  deriving DecidableEq, Repr

/-- A cell, by the type that the server gives it. -/
inductive Cell where
  | null
  | int (width : IntWidth) (i : Int64)
  | float (x : Binary64)
  | bool (b : Bool)
  | text (s : String)
  /-- A JSON document as the server writes it. -/
  | json (s : String)
  /-- Days after 2000-01-01. -/
  | date (days : Int)
  /-- Microseconds after 2000-01-01, without and with a zone. -/
  | localTime (micros : Int)
  | instant (micros : Int)
  /-- A value of a type that is not read. -/
  | unreadable
  deriving DecidableEq

def Cell.toJson : Cell → Json
  | null | unreadable => .null
  | int _ i => .ofInt64 i
  | float x => if x.isFinite then .number (.double x) else .null
  | bool b => .bool b
  | text s => .string s
  | json s => (Json.read? s).getD .null
  | date days => .string (Date.ofDay (Timestamp.serverEpochDay + days)).text
  | localTime micros => .string (Timestamp.ofServerMicros micros).localText
  | instant micros => .string (Timestamp.ofServerMicros micros).text

/-- A row: its cells under the names of their columns. -/
abbrev Row := List (String × Cell)

namespace Row

/-- The cell under a name; of several columns with one name, the last. -/
def cell? (r : Row) (name : String) : Option Cell := (Dict.ofList r).get? name

def value (r : Row) (name : String) : Json := ((r.cell? name).map Cell.toJson).getD .null

def toJson (r : Row) : Json := .ofDict ((Dict.ofList r).mapValues Cell.toJson)

def wideInt (r : Row) (name : String) : Except DatabaseFailure Int64 :=
  match r.cell? name with
  | some (.int .eight i) => .ok i
  | some _ => .error (.columnUnreadable name)
  | none => .error (.columnNotFound name)

end Row

/-- What the server answers to a statement. -/
structure Result where
  rows : List Row := []
  /-- The number of rows that the statement touched. -/
  affected : Nat := 0
  deriving DecidableEq

/-- A row of the catalog's column list; the names may be missing. -/
structure CatalogRow where
  name : Option String
  dataType : Option String
  typeSchema : Option String
  typeName : Option String
  deriving DecidableEq

end TenantGate.Server
