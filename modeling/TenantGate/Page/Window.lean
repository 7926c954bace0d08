import TenantGate.Number.Numeral
import TenantGate.Json.Basic
/-!
# Windows of a result

A `Window` is the part of a result that a page shows: `perPage` rows after `offset`, and one row
more to see whether there is a further page. `PageInfo` is what an answer says about it.
-/

namespace TenantGate

/-- The part of a result that a page shows. -/
structure Window where
  page : Int64
  perPage : Int64
  offset : Int64
  limit : Int64
  deriving DecidableEq

namespace Window

/-- The page size of a request that does not give one. -/
def defaultSize : Int64 := 25

/-- The page size of a list request that does not give one. -/
def listSize : Int64 := 100

def greatestSize : Int64 := 200

/-- The integer of the word that is nearest to `i`. -/
def saturate (i : Int) : Int64 :=
  if i < Number.int64Least then .ofInt Number.int64Least
  else if Number.int64Greatest < i then .ofInt Number.int64Greatest
  else .ofInt i

/-- The window of a page. A page that is missing or not positive is the first one; a page size
that is missing or not positive is the default, and every size is brought between 1 and the
greatest one. -/
def ofRequest (page perPage : Option Int64) (default : Int64) : Window :=
  let page := (page.filter (0 < ·)).getD 1
  let perPage := max 1 (min greatestSize ((perPage.filter (0 < ·)).getD default))
  ⟨page, perPage, saturate ((page.toInt - 1) * perPage.toInt), perPage + 1⟩

/-- The rows of a page, and whether there were more; a negative size is none. -/
def cut {α : Type} (perPage : Int64) (rows : List α) : List α × Bool :=
  let n := perPage.toInt.toNat
  (rows.take n, n < rows.length)

end Window

/-- What an answer says about its page. -/
structure PageInfo where
  page : Int64
  perPage : Int64
  hasMore : Bool
  totalRows : Option Int64
  totalPages : Option Int64
  deriving DecidableEq

namespace PageInfo

/-- The number of pages that `total` rows fill: the rows divided by the page size, rounded up. Each
step is one of the 64-bit word, and there is no number where one of them leaves it. -/
def pages? (w : Window) (total : Int64) : Option Int64 := do
  let sum ← Number.toInt64? (total.toInt + w.perPage.toInt)
  let raised ← Number.toInt64? (sum.toInt - 1)
  if w.perPage = 0 then none else Number.toInt64? (raised.toInt.tdiv w.perPage.toInt)

/-- What is said about a window. When the number of rows is known the number of pages is told as
well, and if that cannot be computed there is no answer. -/
def ofWindow? (w : Window) (hasMore : Bool) (totalRows : Option Int64) : Option PageInfo :=
  match totalRows with
  | none => some ⟨w.page, w.perPage, hasMore, none, none⟩
  | some t => (pages? w t).map fun n => ⟨w.page, w.perPage, hasMore, some t, some n⟩

/-- The paging block of an answer; totals only when they are known. -/
def toJson (p : PageInfo) : Json :=
  let total (name : String) (n : Option Int64) : List (String × Json) :=
    match n with
    | some n => [(name, .ofInt64 n)]
    | none => []
  .object
    ([("page", .ofInt64 p.page), ("per_page", .ofInt64 p.perPage), ("has_more", .bool p.hasMore)]
      ++ total "total_rows" p.totalRows ++ total "total_pages" p.totalPages)

end PageInfo
end TenantGate
