import TenantGate.Coercion
/-!
# Failures

A failure is kept as its cause; the wording is given once, by `Reason.message`,
`BadRequest.message`, `SettingsFailure.message` and `Failure.message`. A validation failure names
the fields it is about, each with a reason, in the order of the field names.
-/

namespace TenantGate

/-! ### Reasons of a field -/

/-- A part of a query expression that is read on its own. -/
inductive QueryPart where
  | column
  | table
  | left
  | right
  | field
  deriving DecidableEq, Repr

def QueryPart.name : QueryPart → String
  | column => "column"
  | table => "table"
  | left => "left"
  | right => "right"
  | field => "field"

/-- Why a field is refused. -/
inductive Reason where
  | required
  | invalid
  | empty
  | unknown
  | notFound
  | notAllowed
  | invalidAlias
  | duplicateAlias
  | duplicateName
  | unknownField
  | unknownAlias
  | coercion (cause : CoercionFailure)
  | sortDirection
  | noTenantColumn (preferred : String)
  | nothingWritable
  | invalidJson
  | expectsArguments (count : String)
  | malformed (part : QueryPart)
  | onlyEquality
  | unsupportedOperator
  | orderDirection
  | invalidSegment (index : Nat) (segment : String)
  | unsupportedMethod (index : Nat) (segment : String)
  | custom (text : String)
  deriving DecidableEq, Repr

def Reason.message : Reason → String
  | required => "required"
  | invalid => "invalid"
  | empty => "empty"
  | unknown => "unknown"
  | notFound => "not found"
  | notAllowed => "not allowed"
  | invalidAlias => "invalid alias"
  | duplicateAlias => "duplicate alias"
  | duplicateName => "duplicate column name"
  | unknownField => "unknown field"
  | unknownAlias => "unknown table alias"
  | coercion cause => cause.message
  | sortDirection => "must be asc or desc"
  | noTenantColumn preferred =>
    "table does not support tenant filter (" ++ preferred ++ " missing)"
  | nothingWritable => "no fillable fields provided"
  | invalidJson => "invalid JSON"
  | expectsArguments count => "expects " ++ count
  | malformed part => "invalid " ++ part.name
  | onlyEquality => "only '=' supported"
  | unsupportedOperator => "unsupported operator"
  | orderDirection => "dir must be asc or desc"
  | invalidSegment index segment => "invalid segment " ++ Number.natText index ++ ": " ++ segment
  | unsupportedMethod index segment =>
    "unsupported method at segment " ++ Number.natText index ++ ": " ++ segment
  | custom text => text

/-! ### Other causes -/

/-- A setting, by the key it is looked up with. -/
inductive SettingKey where
  | databaseUrl
  | httpAddress
  | databaseSchema
  | schemaDirectory
  | cacheLifetime
  | tenantColumn
  | legacyTenantColumn
  | deniedCrudTables
  | deniedQueryTables
  | queryLimit
  deriving DecidableEq, Repr

def SettingKey.name : SettingKey → String
  | databaseUrl => "DATABASE_URL"
  | httpAddress => "HTTP_ADDR"
  | databaseSchema => "DB_SCHEMA"
  | schemaDirectory => "SCHEMA_DIR"
  | cacheLifetime => "SCHEMA_CACHE_TTL_SECS"
  | tenantColumn => "TENANT_COLUMN"
  | legacyTenantColumn => "LEGACY_TENANT_COLUMN"
  | deniedCrudTables => "CRUD_DENIED_TABLES"
  | deniedQueryTables => "QUERY_DENIED_TABLES"
  | queryLimit => "QUERY_MAX_LIMIT"

/-- Why the settings do not load. -/
inductive SettingsFailure where
  | invalid (key : SettingKey) (value : String)
  | missing (key : SettingKey)
  deriving DecidableEq, Repr

def SettingsFailure.message : SettingsFailure → String
  | invalid key value => "invalid value for " ++ key.name ++ ": '" ++ value ++ "'"
  | missing key => "missing required setting: " ++ key.name

/-- Why a request is refused before it is looked at. -/
inductive BadRequest where
  | tenantRequired
  | tenantHeaderMissing
  | bodyNotObject
  | custom (text : String)
  deriving DecidableEq, Repr

def BadRequest.message : BadRequest → String
  | tenantRequired => "tenant id is required"
  | tenantHeaderMissing => "missing X-Tenant-ID header"
  | bodyNotObject => "body must be a JSON object"
  | custom text => text

/-- What can go wrong between a statement and its rows. -/
inductive DatabaseFailure where
  | rowNotFound
  | refused (code text : String)
  | columnNotFound (name : String)
  | columnUnreadable (name : String)
  | unreachable
  deriving DecidableEq, Repr

/-! ### Failures -/

/-- A failure of a request. -/
inductive Failure where
  | config (cause : SettingsFailure)
  | validation (fields : Dict Reason)
  | notFound (table key : String)
  | badRequest (cause : BadRequest)
  | database (cause : DatabaseFailure)
  /-- The end of a cached entry's lifetime lies beyond the last instant of the clock. -/
  | expiryOutOfRange
  /-- Rows and page size, added up for the number of pages, leave the word. -/
  | pagesOutOfRange
  deriving DecidableEq

namespace Failure

def field (name : String) (reason : Reason) : Failure := .validation (.singleton name reason)

/-- The reasons by field, if this is a validation failure. -/
def fields? : Failure → Option (Dict Reason)
  | .validation fields => some fields
  | _ => none

/-- A failure in one line; database failures are worded by the database. -/
def message : Failure → String
  | .config cause => cause.message
  | .validation _ => "validation failed"
  | .notFound table key => "not found: " ++ table ++ " " ++ key
  | .badRequest cause => "bad request: " ++ cause.message
  | .database _ => "database failure"
  | .expiryOutOfRange => "cache lifetime out of range"
  | .pagesOutOfRange => "number of pages out of range"

end Failure

/-- Coerce the value of a field; a failed coercion is a validation failure of the field. -/
def coerceField (name : String) (kind : Option Kind) (v : Json) : Except Failure Sql.Value :=
  match coerce kind v with
  | .ok w => .ok w
  | .error cause => .error (.field name (.coercion cause))

end TenantGate
