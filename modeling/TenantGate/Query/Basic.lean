import TenantGate.Text.Split
import TenantGate.Json.Basic
import TenantGate.Page.Statements
/-!
# Query expressions

A query expression names tables, columns and literals; nothing in it has been looked up yet. A
column keeps the text it was read from, because failures are reported under it.
-/

namespace TenantGate.Query

/-- An argument of a call: a text, or a bare token that is an integer. -/
inductive Literal where
  | text (s : String)
  | int (i : Int64)
  deriving DecidableEq

namespace Literal

def toText : Literal → String
  | text s => s
  | int i => Number.intText i.toInt

/-- The argument as an integer, also when it is a text of one. -/
def toInt? : Literal → Option Int64
  | text s => Number.readInt64? (Text.trim s)
  | int i => some i

def toJson : Literal → Json
  | text s => .string s
  | int i => .ofInt64 i

end Literal

/-- A column that an expression names, perhaps under the alias of a table. -/
structure NamedColumn where
  qualifier : Option String
  column : String
  /-- The text it was read from. -/
  written : String
  deriving DecidableEq

namespace NamedColumn

/-- Read `column` or `alias.column`, blanks around either part aside. -/
def read? (s : String) : Option NamedColumn :=
  let written := Text.trim s
  match (Text.splitOn '.' written).map Text.trim with
  | [column] => if column = "" then none else some ⟨none, column, written⟩
  | [qualifier, column] =>
    if column = "" ∨ qualifier = "" then none else some ⟨some qualifier, column, written⟩
  | _ => none

def display (r : NamedColumn) : String :=
  match r.qualifier with
  | some q => q ++ "." ++ r.column
  | none => r.column

end NamedColumn

/-- The operators of a condition. -/
inductive Operator where
  | compare (op : Sql.Comparison)
  | like
  deriving DecidableEq

namespace Operator

def read? (s : String) : Option Operator :=
  match Text.lower (Text.trim s) with
  | "=" => some (.compare .equal)
  | "<=" => some (.compare .atMost)
  | ">=" => some (.compare .atLeast)
  | "<" => some (.compare .less)
  | ">" => some (.compare .greater)
  | "like" => some .like
  | _ => none

def symbol : Operator → String
  | compare .equal => "="
  | compare .atMost => "<="
  | compare .atLeast => ">="
  | compare .less => "<"
  | compare .greater => ">"
  | like => "ILIKE"

end Operator

/-- A table under an alias. -/
structure NamedTable where
  table : String
  aliasName : String
  deriving DecidableEq

namespace NamedTable

/-- Whether a word is `as`, in any letter case. -/
def isAs (s : String) : Bool := s.toList.map Char.toLower = ['a', 's']

/-- Read `table`, `table alias` or `table as alias`; a bare table is its own alias. -/
def read? (s : String) : Option NamedTable :=
  match Text.words s with
  | [table] => some ⟨table, table⟩
  | [table, aliasName] => some ⟨table, aliasName⟩
  | [table, keyword, aliasName] => if isAs keyword then some ⟨table, aliasName⟩ else none
  | _ => none

end NamedTable

/-- A table joined where two columns are equal. -/
structure JoinClause where
  target : NamedTable
  left : NamedColumn
  right : NamedColumn
  deriving DecidableEq

/-- A condition on a column. -/
structure WhereClause where
  column : NamedColumn
  op : Operator
  value : Literal
  deriving DecidableEq

/-- A column to sort by. -/
structure OrderClause where
  column : NamedColumn
  direction : Sql.Direction
  deriving DecidableEq

/-- A query expression. -/
structure Expression where
  base : NamedTable := ⟨"", ""⟩
  select : List NamedColumn := []
  joins : List JoinClause := []
  wheres : List WhereClause := []
  orderBy : List OrderClause := []
  limit : Option Int64 := none
  deriving DecidableEq

/-- The tables of an expression, the base first. -/
def Expression.tables (e : Expression) : List String := e.base.table :: e.joins.map (·.target.table)

end TenantGate.Query
