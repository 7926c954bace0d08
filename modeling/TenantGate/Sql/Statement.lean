import TenantGate.Sql.Value
/-!
# Statements

The statements that the program sends, as data. A value stands in the statement at the place where
it is bound; nothing in a statement is text that a caller wrote, except names, which are quoted,
and values, which are bound. `Sql.Text` renders statements.
-/

namespace TenantGate.Sql

/-- A table of a database schema. -/
structure TableName where
  schema : String
  name : String
  deriving DecidableEq

/-- A column, by its name alone or under the alias of a table. -/
structure ColumnName where
  qualifier : Option String
  name : String
  deriving DecidableEq

/-- A value to be bound, and the type that its parameter is cast to, if any. -/
structure Bound where
  value : Value
  castTo : Option String
  deriving DecidableEq

/-- An entry of a select list: a column, perhaps read as text, perhaps under a name of its own. -/
structure Output where
  column : ColumnName
  asText : Bool
  label : Option String
  deriving DecidableEq

/-- The name under which an entry appears in a row. -/
def Output.name (o : Output) : String := o.label.getD o.column.name

/-- The comparisons of a column with a value. -/
inductive Comparison where
  | equal
  | atMost
  | atLeast
  | less
  | greater
  deriving DecidableEq, Repr

/-- A condition on one column of a row. -/
inductive Condition where
  | compare (column : ColumnName) (op : Comparison) (value : Bound)
  | isNull (column : ColumnName)
  /-- The column's text matches a pattern, whatever the letter case. -/
  | resembles (column : ColumnName) (pattern : String)
  deriving DecidableEq

/-- The conditions of a statement: every one of `all` holds and, if `any` is not empty, one of
`any` does. -/
structure Filter where
  all : List Condition
  any : List Condition := []
  deriving DecidableEq

/-- The two directions of sorting. -/
inductive Direction where
  | ascending
  | descending
  deriving DecidableEq, Repr

/-- A table joined under an alias where two columns are equal. -/
structure Join where
  table : TableName
  aliasName : String
  left : ColumnName
  right : ColumnName
  deriving DecidableEq

/-- How much of a result is wanted. -/
inductive Extent where
  | everything
  | first
  | atMost (limit : Int64)
  | slice (limit offset : Int64)
  deriving DecidableEq

/-- A query for rows. -/
structure Query where
  outputs : List Output
  table : TableName
  aliasName : Option String := none
  joins : List Join := []
  filter : Filter
  order : List (ColumnName × Direction) := []
  extent : Extent := .everything
  deriving DecidableEq

/-- A column and the value it is given. -/
structure Assignment where
  column : String
  value : Bound
  deriving DecidableEq

/-- The statements that are sent. -/
inductive Statement where
  /-- Add a row, of defaults if nothing is assigned, and return one column of it. -/
  | insert (table : TableName) (assignments : List Assignment) (returning : Output)
  | select (query : Query)
  | count (table : TableName) (filter : Filter)
  | update (table : TableName) (assignments : List Assignment) (filter : Filter)
  | delete (table : TableName) (filter : Filter)
  /-- Ask whether the server answers at all. -/
  | ping
  deriving DecidableEq

end TenantGate.Sql
