import TenantGate.Json.Printer
import TenantGate.Page.Window
import TenantGate.Failure
/-!
# Requests and responses

A response has the exact text of its body. Answers share one layout, with `ok`, `message`, `data`
and `paging`, of which the last two may be missing; failures share another, with `code`, `message`
and `details`.
-/

namespace TenantGate.Http

/-- A request as it arrives. -/
structure Request where
  method : String
  /-- Path and query string, still encoded. -/
  target : String
  headers : List (String × String) := []
  body : String := ""
  deriving DecidableEq

/-- The value of a header, its name compared without letter case. -/
def Request.header? (r : Request) (name : String) : Option String :=
  let key (s : String) := s.toList.map Char.toLower
  (r.headers.find? fun (n, _) => key n = key name).map (·.2)

/-- The value of a header whose characters are all printable ASCII, blanks or tabs. -/
def Request.visibleHeader? (r : Request) (name : String) : Option String :=
  (r.header? name).filter fun v =>
    v.toList.all fun c => (0x20 ≤ c.toNat && c.toNat < 0x7F) || c = '\t'

/-- A response. -/
structure Response where
  status : Nat
  contentType : Option String := none
  allow : Option String := none
  body : String := ""
  deriving DecidableEq

namespace Response

def bare (status : Nat) : Response := { status }

def plain (status : Nat) (text : String) : Response :=
  { status, contentType := some "text/plain; charset=utf-8", body := text }

def json (status : Nat) (v : Json) : Response :=
  { status, contentType := some "application/json", body := v.text }

def answer (status : Nat) (message : String) (data : Option Json) (paging : Option PageInfo) :
    Response :=
  json status (.object
    ([("ok", .bool true), ("message", .string message)]
      ++ (match data with
        | some v => [("data", v)]
        | none => [])
      ++ (match paging with
        | some p => [("paging", p.toJson)]
        | none => [])))

def done (message : String) (data : Json) : Response := answer 200 message (some data) none

/-- The answer to a request that added a row. -/
def added (data : Json) : Response := answer 201 "Created." (some data) none

def page (rows : List Json) (paging : PageInfo) : Response :=
  answer 200 "OK" (some (.array rows)) (some paging)

def writtenRow (table : String) (key : Json) : Json :=
  .object [("table", .string table), ("pk", key)]

def failure (status : Nat) (code message : String) (details : Option Json) : Response :=
  json status (.object
    [("error", .object
      ([("code", .string code), ("message", .string message)]
        ++ (match details with
          | some v => [("details", v)]
          | none => [])))])

/-- The reasons of a validation failure, by field. -/
def reasons (fields : Dict Reason) : Json := .ofDict (fields.mapValues fun r => .string r.message)

/-- The response to a failure. What went wrong inside is not told. -/
def ofError : Failure → Response
  | .config _ | .expiryOutOfRange | .pagesOutOfRange =>
    failure 500 "config_error" "Internal server error." none
  | .validation fields =>
    failure 422 "validation_error" "Validation failed." (some (reasons fields))
  | .notFound _ _ =>
    failure 404 "not_found" "Not found." (some (.object [("id", .string "not found")]))
  | .database _ => failure 500 "database_error" "Internal server error." none
  | .badRequest cause => failure 400 "bad_request" cause.message none

end Response
end TenantGate.Http
