import TenantGate.Kind
import TenantGate.Json.Printer
import TenantGate.Time.Timestamp
/-!
# Typed values

A `Sql.Value` is what a statement binds to a parameter. A missing value keeps the kind it was cast
to, because the server is told the type of a null as well.
-/

namespace TenantGate.Sql

/-- A value that can be bound to a parameter. -/
inductive Value where
  | null (kind : Kind)
  | bool (b : Bool)
  | int (i : Int64)
  | float (x : Binary64)
  | text (s : String)
  | timestamp (t : Timestamp)
  | json (v : Json)
  deriving DecidableEq, Inhabited

namespace Value

/-- The value that a JSON value has by its shape. -/
def ofShape : Json → Value
  | .null => .null .string
  | .bool b => .bool b
  | .number n =>
    match n.toInt64? with
    | some i => .int i
    | none => .float n.toBinary64
  | .string s => .text s
  | .array items => .json (.array items)
  | .object fields => .json (.object fields)

def isNull : Value → Bool
  | .null _ => true
  | _ => false

/-- The value as JSON; an infinity or a NaN has none. -/
def toJson : Value → Json
  | .null _ => .null
  | .bool b => .bool b
  | .int i => .ofInt64 i
  | .float x => if x.isFinite then .number (.double x) else .null
  | .text s => .string s
  | .timestamp t => .string t.text
  | .json v => v

/-- The value as plain text: a text without quotes, anything else as JSON. -/
def display : Value → String
  | .null _ => "null"
  | .text s => s
  | v => v.toJson.text

end Value
end TenantGate.Sql
