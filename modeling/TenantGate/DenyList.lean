import TenantGate.Text.Split
import TenantGate.Table.Basic
/-!
# Deny lists

A deny list names the tables that may not be reached, by lower-case name; a star denies every
table.
-/

namespace TenantGate

/-- The tables that may not be reached: all of them, or those named. -/
structure DenyList where
  everything : Bool := false
  tables : List String := []
  deriving DecidableEq

namespace DenyList

/-- The deny list of a comma list of table names. -/
def parse (s : String) : DenyList :=
  let names := Text.commaList s
  ⟨names.contains "*", (names.filter (· ≠ "*")).map Text.lower⟩

/-- Whether a table may be reached, its name compared trimmed and in lower case. -/
def permits (d : DenyList) (table : String) : Bool :=
  let name := Text.lower (Text.trim table)
  name != "" && !d.everything && !d.tables.contains name

/-- The normalized name of a table that may be reached. -/
def permittedName (d : DenyList) (raw : String) : Except Failure String := do
  let name ← Table.readName raw
  if d.permits name then return name else throw (.field "table" .notAllowed)

end DenyList
end TenantGate
