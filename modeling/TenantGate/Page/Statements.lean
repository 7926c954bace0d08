import TenantGate.Page.Listing
import TenantGate.Table.Statements
/-!
# Statements for a page

A page request on a table becomes two statements with the same conditions: one for the rows of the
page, and one that counts all rows that match. The tenant's condition comes first.
-/

namespace TenantGate.Page

open Sql

/-! ### Columns -/

/-- What the names read so far select: the columns met, those kept, and the names refused. -/
structure Selection where
  seen : List String := []
  columns : List String := []
  failures : Dict Reason := .empty

/-- Add one name. A blank name and a column met before add nothing. -/
def Selection.add (t : Table) (s : Selection) (name : String) : Selection :=
  let column := t.resolve name
  if column = "" ∨ s.seen.contains column then s
  else
    let s := { s with seen := column :: s.seen }
    if t.hasColumn column then { s with columns := s.columns ++ [column] }
    else { s with failures := s.failures.insert name .unknownField }

/-- The columns that a list of names selects: all of them if the list is empty, and otherwise each
one named once, in the order of the names. -/
def selectColumns (t : Table) (names : List String) : Except Failure (List String) :=
  if names.isEmpty then .ok t.columns
  else
    let s := names.foldl (Selection.add t) {}
    if !s.failures.isEmpty then .error (.validation s.failures)
    else if s.columns.isEmpty then .error (.field "select" .empty)
    else .ok s.columns

def filterColumn (t : Table) (name : String) : Except Failure String :=
  let column := t.resolve name
  if t.hasColumn column then .ok column else .error (.field name .unknownField)

/-! ### Conditions -/

/-- The condition of an equality filter; a JSON null asks for no value. -/
def equalCondition (t : Table) (entry : String × Json) : Except Failure Condition := do
  let (name, v) := entry
  let column ← filterColumn t name
  if v.isNull then return .isNull ⟨none, column⟩
  let w ← coerceField name (t.kindOf? column) v
  return t.equals column w

/-- The pattern of a text filter: the text with wildcards around it, unless it has one. -/
def textPattern (v : Json) : String :=
  let s := match v with
    | .string s => s
    | v => v.text
  if s.toList.contains '%' then s else "%" ++ s ++ "%"

/-- The condition of a text filter; a JSON null asks for nothing. -/
def textCondition (t : Table) (entry : String × Json) : Except Failure (Option Condition) := do
  let (name, v) := entry
  let column ← filterColumn t name
  return if v.isNull then none else some (.resembles ⟨none, column⟩ (textPattern v))

/-- The conditions of equality filters, then those of text filters. -/
def conditions (t : Table) (equal like : Dict Json) : Except Failure (List Condition) := do
  let equals ← equal.entries.mapM (equalCondition t)
  let likes ← like.entries.mapM (textCondition t)
  return equals ++ likes.filterMap id

/-- The conditions of a request: the tenant's, the caller's, and one group of alternatives. -/
def filter (t : Table) (scope : Scope) (r : Listing) : Except Failure Filter := do
  let all ← conditions t r.equal r.like
  let any ← conditions t r.anyEqual r.anyLike
  return ⟨t.equals scope.column scope.value :: all, any⟩

/-! ### Order -/

def readDirection? (s : String) : Option Direction :=
  match Text.lower (Text.trim s) with
  | "asc" => some .ascending
  | "desc" => some .descending
  | _ => none

/-- The field that a part of the order term at `i` is reported under. -/
def orderField (i : Nat) (part : String) : String :=
  "order_by[" ++ Number.natText i ++ "]." ++ part

/-- What the order terms read so far give. -/
structure Ordering where
  terms : List (ColumnName × Direction) := []
  failures : Dict Reason := .empty

/-- Add the order term at `i`; without a direction it ascends. -/
def Ordering.add (t : Table) (o : Ordering) (term : OrderTerm × Nat) : Ordering :=
  let (term, i) := term
  let column := t.resolve term.field
  let fail (field : String) (reason : Reason) : Ordering :=
    { o with failures := o.failures.insert field reason }
  if column = "" then fail (orderField i "field") .required
  else if !t.hasColumn column then fail (Text.trim term.field) .unknownField
  else
    let direction :=
      if Text.trim term.direction = "" then some .ascending else readDirection? term.direction
    match direction with
    | some d => { o with terms := o.terms ++ [(⟨none, column⟩, d)] }
    | none => fail (orderField i "dir") .sortDirection

def order (t : Table) (terms : List OrderTerm) : Except Failure (List (ColumnName × Direction)) :=
  let o := terms.zipIdx.foldl (Ordering.add t) {}
  if o.failures.isEmpty then .ok o.terms else .error (.validation o.failures)

/-! ### Statements -/

/-- The statement for the rows of a page and the one that counts all rows. -/
structure Statements where
  rows : Query
  count : TableName × Filter

def Statements.page (s : Statements) : Statement := .select s.rows

def Statements.total (s : Statements) : Statement := .count s.count.1 s.count.2

def statements (t : Table) (scope : Scope) (r : Listing) (w : Window) :
    Except Failure Statements := do
  let columns ← selectColumns t r.select
  let filter ← filter t scope r
  let order ← order t r.orderBy
  return {
    rows :=
      { outputs := columns.map (t.output none)
        table := t.sqlName
        filter
        order
        extent := .slice w.limit w.offset }
    count := (t.sqlName, filter) }

end TenantGate.Page
