import TenantGate.Text.Blank
import TenantGate.Text.Lower
/-!
# Column kinds

The values of a column are coerced to its kind. The kind is declared by name, or inferred from the
type name that the catalog gives for the column.
-/

namespace TenantGate

/-- The way a column's values are coerced. -/
inductive Kind where
  | string
  | int
  | float
  | bool
  | datetime
  | json
  deriving DecidableEq, Repr

namespace Kind

def name : Kind → String
  | string => "string"
  | int => "int"
  | float => "float"
  | bool => "bool"
  | datetime => "datetime"
  | json => "json"

def all : List Kind := [string, int, float, bool, datetime, json]

/-- The kind of a declared name, blanks around it and letter case aside; a failure gives the name
as it was compared. -/
def parse (s : String) : Except String Kind :=
  let n := Text.lower (Text.trim s)
  match all.find? fun k => k.name = n with
  | some k => .ok k
  | none => .error n

/-- Whether `part` occurs in `cs`. -/
def occursIn (part : List Char) : List Char → Bool
  | [] => part.isEmpty
  | c :: cs => part.isPrefixOf (c :: cs) || occursIn part cs

/-- The kind of a catalog type name: `json` types first, then times of day and durations, which are
text, then whatever contains the name of a number, a truth value or a point in time. -/
def ofCatalogType (dataType : String) : Kind :=
  let t := (Text.lower (Text.trim dataType)).toList
  let has (s : String) : Bool := occursIn s.toList t
  if "json".toList.isPrefixOf t then json
  else if has "interval" || t = "time".toList || "time ".toList.isPrefixOf t then string
  else if has "int" then int
  else if ["numeric", "decimal", "double", "real", "float"].any has then float
  else if has "bool" then bool
  else if has "timestamp" || has "date" || has "time" then datetime
  else string

end Kind
end TenantGate
