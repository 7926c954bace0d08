import TenantGate.Sql.Identifier
import TenantGate.Sql.Statement
/-!
# Statement text

A statement is laid out as a list of tokens: fixed words, names and bound values. The text of a
statement is the text of its tokens, where names are quoted and the bound values become the
placeholders `$1`, `$2`, … in the order in which they stand; its parameters are those values.
-/

namespace TenantGate.Sql

/-! ### Tokens -/

/-- The fixed words and marks of statements, with the spaces around them. -/
inductive Word where
  | insertInto
  | defaultValues
  | openList
  | values
  | closeList
  | returning
  | select
  | selectCount
  | selectOne
  | fromTable
  | asAlias
  | join
  | on
  | whereClause
  | and
  | or
  | openGroup
  | closeGroup
  | orderBy
  | ascending
  | descending
  | limit
  | limitOne
  | offset
  | update
  | set
  | deleteFrom
  | comma
  | dot
  | equal
  | atMost
  | atLeast
  | less
  | greater
  | isNull
  | castOpen
  | resembles
  | textCast
  deriving DecidableEq, Repr

def Word.text : Word → String
  | insertInto => "INSERT INTO "
  | defaultValues => " DEFAULT VALUES"
  | openList => " ("
  | values => ") VALUES ("
  | closeList => ")"
  | returning => " RETURNING "
  | select => "SELECT "
  | selectCount => "SELECT COUNT(*) AS total"
  | selectOne => "SELECT 1"
  | fromTable => " FROM "
  | asAlias => " AS "
  | join => " JOIN "
  | on => " ON "
  | whereClause => " WHERE "
  | and => " AND "
  | or => " OR "
  | openGroup => "("
  | closeGroup => ")"
  | orderBy => " ORDER BY "
  | ascending => " ASC"
  | descending => " DESC"
  | limit => " LIMIT "
  | limitOne => " LIMIT 1"
  | offset => " OFFSET "
  | update => "UPDATE "
  | set => " SET "
  | deleteFrom => "DELETE FROM "
  | comma => ", "
  | dot => "."
  | equal => " = "
  | atMost => " <= "
  | atLeast => " >= "
  | less => " < "
  | greater => " > "
  | isNull => " IS NULL"
  | castOpen => "CAST("
  | resembles => " AS TEXT) ILIKE "
  | textCast => "::text"

/-- A token of a statement. -/
inductive Token where
  | word (w : Word)
  | name (s : String)
  | bound (b : Bound)
  deriving DecidableEq

/-! ### Laying out -/

def separated (sep : Word) : List (List Token) → List Token
  | [] => []
  | [ts] => ts
  | ts :: us :: r => ts ++ .word sep :: separated sep (us :: r)

/-- `"schema"."name"` -/
def TableName.tokens (t : TableName) : List Token := [.name t.schema, .word .dot, .name t.name]

/-- `"name"` or `"qualifier"."name"` -/
def ColumnName.tokens (c : ColumnName) : List Token :=
  match c.qualifier with
  | none => [.name c.name]
  | some q => [.name q, .word .dot, .name c.name]

/-- A column, `::text` if it is read as text, and its own name if it has one. -/
def Output.tokens (o : Output) : List Token :=
  o.column.tokens ++ (if o.asText then [.word .textCast] else [])
    ++ (match o.label with
      | some l => [.word .asAlias, .name l]
      | none => [])

def Comparison.word : Comparison → Word
  | equal => .equal
  | atMost => .atMost
  | atLeast => .atLeast
  | less => .less
  | greater => .greater

def Condition.tokens : Condition → List Token
  | compare c op b => c.tokens ++ [.word op.word, .bound b]
  | isNull c => c.tokens ++ [.word .isNull]
  | resembles c pattern =>
    .word .castOpen :: c.tokens ++ [.word .resembles, .bound ⟨.text pattern, none⟩]

/-- The parts of a conjunction; the alternatives are one part in parentheses. -/
def Filter.parts (f : Filter) : List (List Token) :=
  f.all.map Condition.tokens
    ++ (if f.any.isEmpty then []
      else [.word .openGroup :: separated .or (f.any.map Condition.tokens) ++ [.word .closeGroup]])

/-- `… AND … AND (… OR …)` -/
def Filter.tokens (f : Filter) : List Token := separated .and f.parts

def Direction.word : Direction → Word
  | ascending => .ascending
  | descending => .descending

/-- ` JOIN … AS … ON … = …` -/
def Join.tokens (j : Join) : List Token :=
  .word .join :: j.table.tokens ++ .word .asAlias :: .name j.aliasName :: .word .on :: j.left.tokens
    ++ .word .equal :: j.right.tokens

def Bound.ofInt64 (i : Int64) : Bound := ⟨.int i, none⟩

/-- ` LIMIT …` and ` OFFSET …` -/
def Extent.tokens : Extent → List Token
  | everything => []
  | first => [.word .limitOne]
  | atMost limit => [.word .limit, .bound (.ofInt64 limit)]
  | slice limit offset =>
    [.word .limit, .bound (.ofInt64 limit), .word .offset, .bound (.ofInt64 offset)]

/-- ` ORDER BY …`, or nothing. -/
def orderTokens (order : List (ColumnName × Direction)) : List Token :=
  if order.isEmpty then []
  else
    .word .orderBy :: separated .comma (order.map fun (c, d) => c.tokens ++ [.word d.word])

/-- ` AS "alias"`, or nothing. -/
def aliasTokens : Option String → List Token
  | some a => [.word .asAlias, .name a]
  | none => []

def Query.tokens (q : Query) : List Token :=
  .word .select :: separated .comma (q.outputs.map Output.tokens)
    ++ .word .fromTable :: q.table.tokens ++ aliasTokens q.aliasName
    ++ q.joins.flatMap Join.tokens
    ++ .word .whereClause :: q.filter.tokens ++ orderTokens q.order ++ q.extent.tokens

def Statement.tokens : Statement → List Token
  | insert table assignments returning =>
    .word .insertInto :: table.tokens
      ++ (if assignments.isEmpty then [.word .defaultValues]
        else
          .word .openList :: separated .comma (assignments.map fun a => [.name a.column])
            ++ .word .values :: separated .comma (assignments.map fun a => [.bound a.value])
            ++ [.word .closeList])
      ++ .word .returning :: returning.tokens
  | select q => q.tokens
  | count table filter =>
    .word .selectCount :: .word .fromTable :: table.tokens ++ .word .whereClause :: filter.tokens
  | update table assignments filter =>
    .word .update :: table.tokens
      ++ .word .set :: separated .comma
        (assignments.map fun a => [.name a.column, .word .equal, .bound a.value])
      ++ .word .whereClause :: filter.tokens
  | delete table filter => .word .deleteFrom :: table.tokens ++ .word .whereClause :: filter.tokens
  | ping => [.word .selectOne]

/-! ### Text and parameters -/

/-- The placeholder with number `n`, and the type it is cast to. -/
def placeholder (n : Nat) (castTo : Option String) : String :=
  "$" ++ Number.natText n ++ (match castTo with
    | some type => "::" ++ type
    | none => "")

/-- The text of tokens whose first bound value has number `n`. -/
def textFrom (n : Nat) : List Token → String
  | [] => ""
  | .word w :: r => w.text ++ textFrom n r
  | .name s :: r => quoteName s ++ textFrom n r
  | .bound b :: r => placeholder n b.castTo ++ textFrom (n + 1) r

/-- The bound values of tokens, in order. -/
def boundValues : List Token → List Value
  | [] => []
  | .bound b :: r => b.value :: boundValues r
  | .word _ :: r | .name _ :: r => boundValues r

def Statement.text (s : Statement) : String := textFrom 1 s.tokens

/-- The parameters of a statement: the value of `$n` is the `n`-th. -/
def Statement.parameters (s : Statement) : List Value := boundValues s.tokens

end TenantGate.Sql
