import TenantGate.Http.MediaType
import TenantGate.Http.Route
import TenantGate.Rows
import TenantGate.Settings.Basic
/-!
# The service

`Service.serve` answers requests. The parts of a request are read in a fixed order: the tenant, the
path, and then the query string or the body. An operation on rows runs in one transaction, which is
committed if it goes well and rolled back if it fails.
-/

namespace TenantGate.Http

open Server

/-- The service with its settings and the texts of the table overlays. -/
structure Service where
  settings : Settings
  overlays : String → Option String

/-- The name and version that the service tells. -/
def serviceName : String := "tenant-query-sdk"

@[inherit_doc serviceName]
def serviceVersion : String := "0.1.0"

/-- The greatest body in bytes. -/
def bodyLimit : Nat := 1024 * 1024

/-- The bytes of its body that a request announces, if it announces a number of them. -/
def announcedSize (r : Request) : Option Nat :=
  (r.visibleHeader? "content-length").bind Number.readUInt64?

/-- The bytes that the body of a request may have: no more than it announces. -/
def sizeWithin (r : Request) : Nat :=
  match announcedSize r with
  | some n => min bodyLimit n
  | none => bodyLimit

/-! ### Reading requests -/

/-- The tenant that the header of a request names. -/
def readTenant (r : Request) : Except Failure Tenant :=
  match r.visibleHeader? "X-Tenant-ID" with
  | some raw => Tenant.read raw
  | none => .error (.badRequest .tenantHeaderMissing)

/-- A part of the path, or the answer to one that is not UTF-8. -/
def readPart (name part : String) : Except Response String :=
  match decodePart? part with
  | some s => .ok s
  | none => .error (.plain 400 ("Invalid URL: Invalid UTF-8 in `" ++ name ++ "`"))

/-- The JSON document of a body that is not too long. What follows the document is not looked at,
but counts toward the length. -/
def readBody (r : Request) : Option Document :=
  if ((r.visibleHeader? "content-type").filter MediaType.isJson).isSome
      && r.body.utf8ByteSize ≤ sizeWithin r then
    Document.readFirst? r.body
  else none

/-- The fields of a body that has to be a JSON object, in key order. -/
def readPayload (r : Request) : Except Failure (List (String × Json)) :=
  match (readBody r).bind (·.toJson? Document.depthLimit) with
  | some (.object fields) => .ok fields
  | some _ => .error (.badRequest .bodyNotObject)
  | none => .error (.field "body" .invalidJson)

def readListing (r : Request) : Except Failure Listing :=
  match (readBody r).bind Listing.ofDocument? with
  | some p => .ok p
  | none => .error (.field "body" .invalidJson)

/-- The query expression in a body; without one it is empty. -/
def readQuery (r : Request) : Except Failure String :=
  let query? := do
    let [query] ← (← readBody r).members? ["query"] | none
    Document.withDefault "" Document.toString? query
  match query? with
  | some q => .ok q
  | none => .error (.field "body" .invalidJson)

/-- The page request that query parameters make: `page`, `per_page` and `with_total` have their
meaning, and every other name is a column that must equal the value. -/
def parameterListing (parameters : Dict String) : Listing :=
  let number (name : String) : Option Int64 :=
    (parameters.get? name).bind fun v => Number.readInt64? (Text.trim v)
  let reserved := ["page", "per_page", "with_total"]
  { equal := .ofList ((parameters.entries.filter fun (k, _) => !reserved.contains k).map
      fun (k, v) => (k, .string v))
    page := number "page"
    perPage := number "per_page"
    withTotal := match parameters.get? "with_total" with
      | some v => Text.trim v = "1" || Text.trim v = "true"
      | none => false }

/-! ### Transactions -/

def transaction {α : Type} (body : Action α) : Action α := do
  Action.ofReply (← Action.ask .begin)
  match ← ExceptT.lift body.run with
  | .ok a => do
    Action.ofReply (← Action.ask .commit)
    return a
  | .error e => do
    let _ ← Action.ask .rollback
    throw e

/-! ### Endpoints -/

namespace Service

/-- How operations on rows reach tables. -/
def gate (s : Service) : Gate :=
  ⟨⟨s.settings.databaseSchema, s.overlays⟩, s.settings.rowDenials, s.settings.tenants⟩

/-- How query expressions reach tables. -/
def queryGate (s : Service) : Gate := { s.gate with denials := s.settings.queryDenials }

def record (s : Service) (t : TenantTable) (mode : WriteMode) (payload : List (String × Json)) :
    Action Record := do
  let now : Timestamp ← Action.ask .now
  Action.ofExcept (Record.ofPayload t.table s.settings.tenants mode now payload)

def create (s : Service) (tenant : Tenant) (table : String) (r : Request) : Action Response := do
  let payload ← Action.ofExcept (readPayload r)
  transaction do
    let t ← s.gate.enter table tenant
    let record ← s.record t .insert payload
    let key ← t.insert record
    return .added (Response.writtenRow t.table.name key)

def page (s : Service) (tenant : Tenant) (table : String) (p : Listing)
    (defaultSize : Int64) : Action Response :=
  transaction do
    let t ← s.gate.enter table tenant
    let (rows, paging) ← t.page p defaultSize
    return .page rows paging

/-- A page that query parameters ask for. -/
def list (s : Service) (tenant : Tenant) (table : String) (r : Request) : Action Response :=
  s.page tenant table (parameterListing (Target.read r.target).parameters) Window.listSize

/-- A page that a body asks for. -/
def select (s : Service) (tenant : Tenant) (table : String) (r : Request) : Action Response := do
  let p ← Action.ofExcept (readListing r)
  s.page tenant table p Window.defaultSize

def read (s : Service) (tenant : Tenant) (table key : String) : Action Response :=
  transaction do
    let t ← s.gate.enter table tenant
    let key ← Action.ofExcept (t.table.readKey key)
    return .done "OK" (← t.find key)

def update (s : Service) (tenant : Tenant) (table key : String) (r : Request) :
    Action Response := do
  let payload ← Action.ofExcept (readPayload r)
  transaction do
    let t ← s.gate.enter table tenant
    let key ← Action.ofExcept (t.table.readKey key)
    let record ← s.record t .update payload
    t.update key record
    return .done "Updated." (Response.writtenRow t.table.name key.toJson)

def delete (s : Service) (tenant : Tenant) (table key : String) : Action Response :=
  transaction do
    let t ← s.gate.enter table tenant
    let key ← Action.ofExcept (t.table.readKey key)
    t.delete key
    return .done "Deleted." (Response.writtenRow t.table.name key.toJson)

def query (s : Service) (tenant : Tenant) (r : Request) : Action Response := do
  let text ← Action.ofExcept (readQuery r)
  transaction do
    let rows ← s.queryGate.answer s.settings.queryLimit tenant text
    return .done "OK" (.array rows)

def ready : Action Response := do
  match ← Action.ask (.execute .ping) with
  | .ok _ => return .json 200 (.object [("status", .string "ok"), ("database", .string "ok")])
  | .error _ =>
    return .json 503 (.object [("status", .string "degraded"), ("database", .string "unavailable")])

/-! ### Answers -/

/-- Go on with the table of a path, or answer that it cannot be read. -/
def withTable (table : String) (go : String → Action Response) : Action Response :=
  match readPart "table" table with
  | .ok table => go table
  | .error response => pure response

/-- Go on with the table and the key of a path, or answer that one of them cannot be read. -/
def withRow (table key : String) (go : String → String → Action Response) : Action Response :=
  withTable table fun table =>
    match readPart "pk" key with
    | .ok key => go table key
    | .error response => pure response

def withTenant (r : Request) (go : Tenant → Action Response) : Action Response := do
  go (← Action.ofExcept (readTenant r))

def run (s : Service) (r : Request) : Endpoint → Action Response
  | .health => return .json 200 (.object [("status", .string "ok")])
  | .version =>
    return .json 200 (.object [("name", .string serviceName), ("version", .string serviceVersion)])
  | .ready => ready
  | .query => withTenant r fun tenant => s.query tenant r
  | .create table => withTenant r fun tenant => withTable table fun t => s.create tenant t r
  | .list table => withTenant r fun tenant => withTable table fun t => s.list tenant t r
  | .select table => withTenant r fun tenant => withTable table fun t => s.select tenant t r
  | .read table key => withTenant r fun tenant => withRow table key fun t k => s.read tenant t k
  | .update table key =>
    withTenant r fun tenant => withRow table key fun t k => s.update tenant t k r
  | .delete table key =>
    withTenant r fun tenant => withRow table key fun t k => s.delete tenant t k

/-- The response of an action, a failure among them. -/
def respond (a : Action Response) : StateT TableCache Program Response := do
  match ← a.run with
  | .ok response => return response
  | .error e => return .ofError e

/-- Whether a request announces a body that is too long. -/
def announcesTooMuch (r : Request) : Bool :=
  match announcedSize r with
  | some n => bodyLimit < n
  | none => false

/-- The answer to a body that is too long. -/
def tooLong : Response := .plain 413 "length limit exceeded"

/-- Answer a request. A `HEAD` request is answered like a `GET` request, without the body. -/
def serve (s : Service) (r : Request) : StateT TableCache Program Response :=
  match Route.ofParts (Target.read r.target).parts with
  | none => return if announcesTooMuch r then tooLong else .bare 404
  | some route =>
    match route.endpoint? r.method with
    | none =>
      return { (if announcesTooMuch r then tooLong else .bare 405) with allow := some route.allow }
    | some endpoint => do
      let response ← if announcesTooMuch r then pure tooLong else respond (s.run r endpoint)
      return if r.method = "HEAD" then { response with body := "" } else response

end Service
end TenantGate.Http
