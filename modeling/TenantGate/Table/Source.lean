import TenantGate.Server.Action
import TenantGate.Table.Catalog
import TenantGate.Table.Overlay
/-!
# Where tables come from

A table is read from the catalog, through the cache, and then its overlay is laid over it. The
cache holds what the catalog gave; an overlay is laid over it anew each time. For reading alone a
table without a key will do, and such a table is not kept.
-/

namespace TenantGate

open Server

/-- Where tables are looked for: the database schema, and the texts of their overlays. -/
structure TableSource where
  schema : String
  overlays : String → Option String

namespace TableSource

/-! ### The catalog -/

def present (name : String) : Option String → Except Failure String
  | some s => .ok s
  | none => .error (.database (.columnUnreadable name))

/-- The columns of a catalog list; one without a name is passed over. -/
def readColumns : List CatalogRow → Except Failure (List ListedColumn)
  | [] => .ok []
  | row :: rows => do
    let name ← present "column_name" row.name
    let name := Text.trim name
    if name = "" then readColumns rows
    else
      let dataType ← present "data_type" row.dataType
      let columns ← readColumns rows
      return ⟨name, Text.trim dataType, row.typeSchema.getD "", row.typeName.getD ""⟩ :: columns

def columns (s : TableSource) (name : String) : Action (List ListedColumn) := do
  let rows ← Action.ofReply (← Action.ask (.columns s.schema name))
  Action.ofExcept (readColumns rows)

/-- The key column of a table in the catalog; a blank one counts as none. -/
def primaryKey (s : TableSource) (name : String) : Action (Option String) := do
  match ← Action.ofReply (← Action.ask (.primaryKey s.schema name)) with
  | none => return none
  | some key => do
    let key ← Action.ofExcept (present "column_name" key)
    let key := Text.trim key
    return if key = "" then none else some key

def readCatalog (s : TableSource) (name : String) : Action Table := do
  let columns ← s.columns name
  if columns.isEmpty then throw (.field "table" .notFound)
  let key ← s.primaryKey name
  Action.ofExcept (Table.ofCatalog s.schema name columns key)

/-! ### Cache and overlay -/

def cached? (name : String) : Action (Option Table) := do
  let now : Instant ← Action.ask .instant
  modifyGet fun c => c.lookup name now

def keep (name : String) (t : Table) : Action Unit := do
  let now : Instant ← Action.ask .instant
  match (← get).insert? name t now with
  | some c => set c
  | none => throw .expiryOutOfRange

/-- The table as the catalog gives it, from the cache if it is there. -/
def catalogTable (s : TableSource) (name : String) : Action Table := do
  match ← cached? name with
  | some t => return t
  | none => do
    let t ← s.readCatalog name
    keep name t
    return t

def overlaid (s : TableSource) (name : String) (t : Table) : Table :=
  match s.overlays name with
  | some text => (Overlay.parse text).layOn t
  | none => t

def find (s : TableSource) (raw : String) : Action Table := do
  let name ← Action.ofExcept (Table.readName raw)
  let t ← s.catalogTable name
  return s.overlaid name t

/-- The table that a caller names, for reading alone; it needs no key. -/
def findReadable (s : TableSource) (raw : String) : Action Table := do
  let name ← Action.ofExcept (Table.readName raw)
  match ← cached? name with
  | some t => return s.overlaid name t
  | none => do
    let t ← do
      match ← s.primaryKey name with
      | some _ => s.catalogTable name
      | none => do
        let columns ← s.columns name
        Action.ofExcept (Table.ofColumns s.schema name columns "")
    return s.overlaid name t

end TableSource
end TenantGate
