import TenantGate.Server.Program
import TenantGate.Proofs.Sql.Clause
/-!
# Statements over rows

What a database does with a statement, where a table is a list of rows and a row may lack a value in
a column. A row is kept where the `WHERE` clause, read with the precedence of SQL
(`Sql.Filter.meets`), is true; the rows that are kept are sorted stably, and then cut. What a
database decides by itself is left open in an `Interpretation`: casts, comparisons, patterns, orders
and how data are shown.
-/

namespace TenantGate.Data

open Sql Server

/-- A row that is stored: what it holds in each column, if anything. -/
abbrev Row (Datum : Type) := String → Option Datum

/-- The rows of every table, in order. -/
abbrev Database (Datum : Type) := TableName → List (Row Datum)

/-- Rows that are looked at together, each under the alias of its table. -/
abbrev Binding (Datum : Type) := List (Option String × Row Datum)

/-- What a database decides by itself. -/
structure Interpretation (Datum : Type) where
  /-- A bound value, cast to the type of its parameter if that has one. -/
  cast : Bound → Option Datum
  /-- The comparisons of two values that are there. -/
  compare : Comparison → Datum → Datum → Bool
  /-- Whether the text of a value matches a pattern. -/
  resembles : Datum → String → Bool
  /-- Which of two values comes first in an order. -/
  order : Direction → Option Datum → Option Datum → Ordering
  /-- How a value is shown, as a text or as it is. -/
  cell : Bool → Option Datum → Cell
  /-- What a new row of a table holds where nothing is assigned. -/
  fresh : TableName → List (Row Datum) → Row Datum

variable {Datum : Type}

/-! ### Names

A statement on one table names columns without an alias, one on several tables under the alias of a
table. -/

/-- The value of a column; a name without an alias means the first table. -/
def Binding.value (b : Binding Datum) (c : ColumnName) : Option Datum :=
  (b.find? fun (a, _) => c.qualifier.isNone || c.qualifier == a).bind fun (_, row) => row c.name

@[simp] theorem Binding.value_unqualified (a : Option String) (row : Row Datum) (column : String) :
    Binding.value [(a, row)] ⟨none, column⟩ = row column := rfl

/-- The database with other rows in one table. -/
def Database.set (db : Database Datum) (table : TableName) (rows : List (Row Datum)) :
    Database Datum :=
  fun t => if t = table then rows else db t

@[simp] theorem Database.set_same (db : Database Datum) (table : TableName)
    (rows : List (Row Datum)) : db.set table rows table = rows := if_pos rfl

/-- Every other table is as it was. -/
theorem Database.set_other (db : Database Datum) {table t : TableName} (rows : List (Row Datum))
    (h : t ≠ table) : db.set table rows t = db t := if_neg h

namespace Interpretation

variable (I : Interpretation Datum)

/-! ### Conditions

Conditions have three truth values, as SQL has them. -/

/-- The comparison of two values; with a missing one it is unknown. -/
def comparison (op : Comparison) : Option Datum → Option Datum → Truth
  | some x, some y => .ofBool (I.compare op x y)
  | _, _ => .unknown

/-- The value of a condition. -/
def truth (b : Binding Datum) : Condition → Truth
  | .compare c op v => I.comparison op (b.value c) (I.cast v)
  | .isNull c => .ofBool (b.value c).isNone
  | .resembles c pattern =>
    match b.value c with
    | some x => .ofBool (I.resembles x pattern)
    | none => .unknown

/-- Whether a `WHERE` clause keeps the rows. -/
def keeps (f : Filter) (b : Binding Datum) : Bool := f.meets (I.truth b)

/-! ### Queries

A query joins, keeps, sorts and cuts, in this order. -/

/-- The rows of a query's tables, joined where the columns are equal. -/
def bindings (db : Database Datum) (q : Query) : List (Binding Datum) :=
  q.joins.foldl
    (fun bs j => bs.flatMap fun b =>
      ((db j.table).map fun row => b ++ [(some j.aliasName, row)]).filter fun b =>
        I.comparison .equal (b.value j.left) (b.value j.right) = .yes)
    ((db q.table).map fun row => [(q.aliasName, row)])

/-- Whether rows may come before others, by the first term that tells them apart. -/
def precedes : List (ColumnName × Direction) → Binding Datum → Binding Datum → Bool
  | [], _, _ => true
  | (c, d) :: terms, a, b =>
    match I.order d (a.value c) (b.value c) with
    | .lt => true
    | .gt => false
    | .eq => precedes terms a b

/-- The rows that a query keeps, in its order. -/
def found (db : Database Datum) (q : Query) : List (Binding Datum) :=
  ((I.bindings db q).filter (I.keeps q.filter)).mergeSort (I.precedes q.order)

/-- A row as a query shows it, under the names of its outputs. -/
def shown (outputs : List Output) (b : Binding Datum) : Server.Row :=
  outputs.map fun o => (o.name, I.cell o.asText (b.value o.column))

end Interpretation

/-- How much of a result is given; a negative number is refused. -/
def cut {α : Type} (l : List α) : Extent → Except DatabaseFailure (List α)
  | .everything => .ok l
  | .first => .ok (l.take 1)
  | .atMost limit =>
    if limit < 0 then .error (.refused "2201W" "LIMIT must not be negative")
    else .ok (l.take limit.toInt.toNat)
  | .slice limit offset =>
    if offset < 0 then .error (.refused "2201X" "OFFSET must not be negative")
    else if limit < 0 then .error (.refused "2201W" "LIMIT must not be negative")
    else .ok ((l.drop offset.toInt.toNat).take limit.toInt.toNat)

namespace Interpretation

variable (I : Interpretation Datum)

/-! ### Statements

What every kind of statement does to the rows and what it tells of them. -/

/-- The row with what is assigned in place of what it held. -/
def assign (assignments : List Assignment) (row : Row Datum) : Row Datum := fun column =>
  match assignments.find? (·.column = column) with
  | some a => I.cast a.value
  | none => row column

/-- What a statement gives, and the database after it. -/
def execute (db : Database Datum) : Statement → Except DatabaseFailure Result × Database Datum
  | .insert table assignments returning =>
    let row := I.assign assignments (I.fresh table (db table))
    (.ok { rows := [I.shown [returning] [(none, row)]], affected := 1 },
      db.set table (db table ++ [row]))
  | .select q =>
    ((cut (I.found db q) q.extent).map fun bs =>
      { rows := bs.map (I.shown q.outputs), affected := bs.length }, db)
  | .count table f =>
    let n := ((db table).filter fun row => I.keeps f [(none, row)]).length
    (.ok { rows := [[("total", .int .eight (.ofNat n))]], affected := 1 }, db)
  | .update table assignments f =>
    let n := ((db table).filter fun row => I.keeps f [(none, row)]).length
    (.ok { affected := n },
      db.set table ((db table).map fun row =>
        if I.keeps f [(none, row)] then I.assign assignments row else row))
  | .delete table f =>
    let n := ((db table).filter fun row => I.keeps f [(none, row)]).length
    (.ok { affected := n }, db.set table ((db table).filter fun row => !I.keeps f [(none, row)]))
  | .ping => (.ok { rows := [[("?column?", .int .four 1)]], affected := 1 }, db)

/-- The answer to a request: statements go to the database, everything else is answered as the
script says. -/
def reply (s : Script) (q : Request) (db : Database Datum) : q.Reply × Database Datum :=
  match q with
  | .execute st => I.execute db st
  | q => ((s.reply q).1, db)

/-- A query of one table keeps rows of that table. -/
theorem found_eq {db : Database Datum} {q : Query} (halias : q.aliasName = none)
    (hjoins : q.joins = []) :
    I.found db q =
      (((db q.table).filter fun row => I.keeps q.filter [(none, row)]).map
        fun row => [(none, row)]).mergeSort (I.precedes q.order) := by
  rw [found, bindings, hjoins, halias, List.foldl_nil, List.filter_map]
  rfl

/-! ### Rows of a value

Whose a row is, by the column of the tenant. -/

/-- The row has the bound value in the column, as SQL compares them. -/
def owns (column : String) (b : Bound) (row : Row Datum) : Bool :=
  I.comparison .equal (row column) (I.cast b) = .yes

/-- A clause that demands the value keeps only rows that have it. -/
theorem owns_of_keeps {f : Filter} {column : String} {b : Bound} {row : Row Datum}
    (hf : .compare ⟨none, column⟩ .equal b ∈ f.all) (h : I.keeps f [(none, row)] = true) :
    I.owns column b row = true := by
  have hall := ((Filter.meets_iff (List.ne_nil_of_mem hf)).1 h).1
  have htruth : I.truth [(none, row)] (.compare ⟨none, column⟩ .equal b) = .yes := hall _ hf
  rw [owns, decide_eq_true_iff]
  exact htruth

/-- An assignment of other columns leaves a row whose it is. -/
theorem owns_assign {assignments : List Assignment} {column : String} {b : Bound} {row : Row Datum}
    (h : ∀ a ∈ assignments, a.column ≠ column) :
    I.owns column b (I.assign assignments row) = I.owns column b row := by
  have hnone : assignments.find? (·.column = column) = none :=
    List.find?_eq_none.2 fun a ha => by simpa using h a ha
  have hkept : I.assign assignments row column = row column := by
    rw [assign, hnone]
  rw [owns, owns, hkept]

end Interpretation
end TenantGate.Data
