import TenantGate.Http.Message
import TenantGate.Http.Target
/-!
# Routes

A path leads to a route, whatever the method; the route knows the methods that it answers. The
last part of a path may not be empty, and `select` as the last part names the page requests of a
table, not a row.
-/

namespace TenantGate.Http

/-- What a path leads to; the parts are still encoded. -/
inductive Route where
  | health
  | version
  | ready
  | query
  | rows (table : String)
  | select (table : String)
  | row (table key : String)
  deriving DecidableEq

/-- What a request does. -/
inductive Endpoint where
  | health
  | version
  | ready
  | query
  | create (table : String)
  | list (table : String)
  | select (table : String)
  | read (table key : String)
  | update (table key : String)
  | delete (table key : String)
  deriving DecidableEq

namespace Route

def ofParts : List String → Option Route
  | ["", "health"] => some health
  | ["", "version"] => some version
  | ["", "ready"] => some ready
  | ["", "query"] => some query
  | ["", "crud", table] => if table = "" then none else some (rows table)
  | ["", "crud", table, key] =>
    if key = "" then none else if key = "select" then some (select table) else some (row table key)
  | _ => none

/-- What a route answers, by method. -/
def endpoints : Route → List (String × Endpoint)
  | health => [("GET", .health), ("HEAD", .health)]
  | version => [("GET", .version), ("HEAD", .version)]
  | ready => [("GET", .ready), ("HEAD", .ready)]
  | query => [("POST", .query)]
  | rows t => [("GET", .list t), ("HEAD", .list t), ("POST", .create t)]
  | select t => [("POST", .select t)]
  | row t k =>
    [("GET", .read t k), ("HEAD", .read t k), ("PUT", .update t k), ("PATCH", .update t k),
      ("DELETE", .delete t k)]

/-- The methods that a route answers, as the `allow` header lists them. -/
def allow (r : Route) : String := ",".intercalate (r.endpoints.map (·.1))

/-- What a request to a route with a method does. -/
def endpoint? (r : Route) (method : String) : Option Endpoint := r.endpoints.lookup method

end Route
end TenantGate.Http
