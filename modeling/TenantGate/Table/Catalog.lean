import TenantGate.Table.Basic
/-!
# Tables from the catalog

The database catalog lists the columns of a table with their types. `Table.ofCatalog` makes a
table of them when a primary key is known, `Table.ofColumns` whatever the key is.
-/

namespace TenantGate

/-- One column as the catalog lists it. -/
structure ListedColumn where
  name : String
  dataType : String
  /-- The schema and the name of the underlying type. -/
  typeSchema : String
  typeName : String
  deriving DecidableEq

namespace ListedColumn

/-- The types that a plain parameter can be bound for. -/
def nativeTypes : List String :=
  ["smallint", "integer", "bigint", "real", "double precision", "numeric", "boolean", "text",
    "character varying", "character", "timestamp with time zone", "timestamp without time zone",
    "date"]

/-- The type that parameters for the column are cast to, if they have to be. Without a type name,
an array or a user-defined type cannot be named. -/
def parameterType? (c : ListedColumn) : Option String :=
  let dataType := Text.lower c.dataType
  if nativeTypes.contains dataType then none
  else
    let typeName := Text.trim c.typeName
    if typeName = "" then
      if dataType = "array" ∨ dataType = "user-defined" then none else some dataType
    else
      let typeSchema := Text.trim c.typeSchema
      if typeSchema = "" ∨ typeSchema = "pg_catalog" then some typeName
      else some (Sql.qualifiedName typeSchema typeName)

end ListedColumn

namespace Table

def addColumn (t : Table) (c : ListedColumn) : Table :=
  { t with
    columns := t.columns ++ [c.name]
    kinds := t.kinds.insert c.name (.ofCatalogType c.dataType)
    parameterTypes :=
      match c.parameterType? with
      | some type => t.parameterTypes.insert c.name type
      | none => t.parameterTypes
    catalogTypes := t.catalogTypes.insert c.name c.dataType }

/-- The columns that hold generated times. -/
def createdAt : String := "created_at"

@[inherit_doc createdAt]
def updatedAt : String := "updated_at"

/-- A table of the columns listed; one without columns does not exist. -/
def ofColumns (schema name : String) (columns : List ListedColumn) (primaryKey : String) :
    Except Failure Table :=
  if columns.isEmpty then .error (.field "table" .notFound)
  else
    let t := columns.foldl addColumn
      { schema := schema, name := name, primaryKey := primaryKey, columns := [] }
    .ok { t with timestamps := t.hasColumn createdAt && t.hasColumn updatedAt }

/-- A table of the columns listed, with the key that the catalog names. -/
def ofCatalog (schema name : String) (columns : List ListedColumn) (primaryKey : Option String) :
    Except Failure Table :=
  if columns.isEmpty then .error (.field "table" .notFound)
  else
    match primaryKey with
    | some key => ofColumns schema name columns key
    | none => .error (.field "primary_key" .notFound)

end Table
end TenantGate
