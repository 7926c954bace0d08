import TenantGate.Json.Members
import TenantGate.Page.Window
/-!
# Page requests

A page request asks for columns, filters, an order and a page of one table. Its names are still the
caller's; they are looked up when the request is made into a statement.
-/

namespace TenantGate

/-- A column to sort by and a direction, as the caller wrote them. -/
structure OrderTerm where
  field : String := ""
  direction : String := ""
  deriving DecidableEq

/-- A request for a page of rows. -/
structure Listing where
  /-- The columns wanted; all of them when none is named. -/
  select : List String := []
  /-- Columns that must equal a value. -/
  equal : Dict Json := .empty
  /-- Columns of which one must equal its value, or resemble its pattern. -/
  anyEqual : Dict Json := .empty
  /-- Columns whose text must resemble a pattern. -/
  like : Dict Json := .empty
  /-- The patterns among the alternatives. -/
  anyLike : Dict Json := .empty
  orderBy : List OrderTerm := []
  page : Option Int64 := none
  perPage : Option Int64 := none
  /-- Whether the number of all matching rows is wanted. -/
  withTotal : Bool := false
  deriving DecidableEq

namespace Listing

def window (r : Listing) (default : Int64) : Window := .ofRequest r.page r.perPage default

def readOrderTerm (d : Document) : Option OrderTerm := do
  let [field, direction] ← d.members? ["field", "dir"] | none
  return ⟨← Document.withDefault "" Document.toString? field,
    ← Document.withDefault "" Document.toString? direction⟩

/-- The members of a request, in order. -/
def memberNames : List String :=
  ["select", "where", "or_where", "like", "or_like", "order_by", "page", "per_page", "with_total"]

/-- The containers that the members may nest: the request itself is one. -/
def memberDepth : Nat := Document.depthLimit - 1

def ofDocument? (d : Document) : Option Listing := do
  let [select, equal, anyEqual, like, anyLike, orderBy, page, perPage, withTotal] ←
    d.members? memberNames | none
  let dict (m : Option Document) : Option (Dict Json) :=
    (Document.optional (Document.toDict? memberDepth) m).map (·.getD .empty)
  return {
    select := (← Document.optional (Document.toList? Document.toString?) select).getD []
    equal := ← dict equal
    anyEqual := ← dict anyEqual
    like := ← dict like
    anyLike := ← dict anyLike
    orderBy := ← Document.withDefault [] (Document.toList? readOrderTerm) orderBy
    page := ← Document.optional Document.toInt64? page
    perPage := ← Document.optional Document.toInt64? perPage
    withTotal := ← Document.withDefault false Document.toBool? withTotal }

end Listing
end TenantGate
