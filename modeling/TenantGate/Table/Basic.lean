import TenantGate.Failure
import TenantGate.Sql.Identifier
/-!
# Tables

A `Table` is what the program knows of a table: its columns, its key, how values are coerced and
written, and which names outside callers may use. Callers name columns through `Table.resolve`,
which trims a name and follows the aliases.
-/

namespace TenantGate

/-- Where generated times come from: the system, or one fixed instant. -/
inductive Clock where
  | system
  | fixed (time : Timestamp)
  deriving DecidableEq

/-- The time on a clock, when the system shows `now`. -/
def Clock.read (c : Clock) (now : Timestamp) : Timestamp :=
  match c with
  | .system => now
  | .fixed time => time

/-- A table as the catalog and its overlay describe it. -/
structure Table where
  /-- The database schema that holds the table. -/
  schema : String
  name : String
  primaryKey : String
  columns : List String
  /-- The kinds of columns; a column without one takes values by their shape. -/
  kinds : Dict Kind := .empty
  /-- The columns open to callers; when there are none, all but the key are. -/
  writable : List String := []
  /-- Outside names of columns. -/
  aliases : Dict String := .empty
  /-- Whether writes set `created_at` and `updated_at`. -/
  timestamps : Bool := false
  /-- Catalog type names. -/
  catalogTypes : Dict String := .empty
  /-- The types that parameters for a column are cast to. -/
  parameterTypes : Dict String := .empty
  clock : Clock := .system
  deriving DecidableEq

namespace Table

def hasColumn (t : Table) (column : String) : Bool := t.columns.contains column

def kindOf? (t : Table) (column : String) : Option Kind := t.kinds.get? column

/-- The column that a caller's name means: trimmed, and replaced if it is an alias. -/
def resolve (t : Table) (name : String) : String :=
  let k := Text.trim name
  (t.aliases.get? k).getD k

/-- The columns that callers may write, the key never among them. -/
def isWritable (t : Table) (column : String) : Bool :=
  (if t.writable.isEmpty then t.columns else t.writable).contains column && column != t.primaryKey

/-- The columns that callers may write, in order and without repetition. -/
def writableColumns (t : Table) : List String :=
  let source := if t.writable.isEmpty then t.columns else t.writable
  (Dict.ofList ((source.filter (· ≠ t.primaryKey)).map fun c => (c, ()))).keys

/-- The type names whose cells are read as they are. -/
def readableTypes : List String :=
  ["smallint", "integer", "bigint", "real", "double precision", "boolean", "text",
    "character varying", "character", "timestamp with time zone", "timestamp without time zone",
    "date", "json", "jsonb"]

/-- Whether a column has to be selected as text to be read. -/
def isReadAsText (t : Table) (column : String) : Bool :=
  match t.catalogTypes.get? column with
  | some type => !readableTypes.contains (Text.lower type)
  | none => false

/-- The type that a parameter for a column is cast to. -/
def parameterType? (t : Table) (column : String) : Option String := t.parameterTypes.get? column

/-! ### Names of tables -/

/-- The name a caller gives, trimmed and in lower case, if that is a plain identifier. -/
def readName (raw : String) : Except Failure String :=
  let name := Text.lower (Text.trim raw)
  if name = "" then .error (.field "table" .required)
  else if !Sql.isIdentifier name then .error (.field "table" .invalid)
  else .ok name

end Table
end TenantGate
