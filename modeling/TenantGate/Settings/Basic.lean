import TenantGate.DenyList
import TenantGate.Settings.Address
import TenantGate.Table.Cache
import TenantGate.Tenancy
/-!
# Settings

Settings are looked up by key; a blank value counts as none. The first setting that is not valid is
reported, in the order in which `Settings.load` asks for them.
-/

namespace TenantGate

/-- What the program is set up with. -/
structure Settings where
  databaseUrl : Option String
  httpAddress : SocketAddress
  databaseSchema : String
  schemaDirectory : Option String
  /-- The lifetime of cached tables in seconds. -/
  cacheLifetime : Nat
  tenants : TenantNaming
  rowDenials : DenyList
  queryDenials : DenyList
  queryLimit : Int64
  deriving DecidableEq

namespace Settings

/-- The database schema in use unless another is set. -/
def defaultSchema : String := "public"

/-- The greatest query limit in use unless another is set. -/
def defaultQueryLimit : Int64 := 200

/-- The lifetime of cached tables, in seconds, unless another is set. -/
def defaultCacheLifetime : Nat := 300

def defaultAddress : SocketAddress := .v4 [0, 0, 0, 0] 3000

/-- The trimmed value of a setting, if it is not blank. -/
def value? (lookup : String → Option String) (key : SettingKey) : Option String :=
  ((lookup key.name).map Text.trim).filter (· ≠ "")

/-- The value of a setting that has to be of a form, or a default. -/
def readOr {α : Type} (key : SettingKey) (read : String → Option α) (default : α) :
    Option String → Except SettingsFailure α
  | none => .ok default
  | some s =>
    match read s with
    | some a => .ok a
    | none => .error (.invalid key s)

/-- The value of a setting that has to be a plain identifier, or a default. -/
def identOr (key : SettingKey) (default : String) : Option String → Except SettingsFailure String :=
  readOr key (fun s => if Sql.isIdentifier s then some s else none) default

/-- Tenant column for older tables. A blank setting turns it off; without a setting there is one.
-/
def legacyColumn (lookup : String → Option String) : Except SettingsFailure String :=
  match (lookup SettingKey.legacyTenantColumn.name).map Text.trim with
  | none => .ok TenantNaming.defaultLegacy
  | some s =>
    if s = "" ∨ Sql.isIdentifier s then .ok s else .error (.invalid .legacyTenantColumn s)

def load (lookup : String → Option String) : Except SettingsFailure Settings := do
  let get := value? lookup
  let databaseSchema ← identOr .databaseSchema defaultSchema (get .databaseSchema)
  let preferred ← identOr .tenantColumn TenantNaming.defaultPreferred (get .tenantColumn)
  let legacy ← legacyColumn lookup
  let cacheLifetime ←
    readOr .cacheLifetime Number.readUInt64? defaultCacheLifetime (get .cacheLifetime)
  let queryLimit ← readOr .queryLimit Number.readInt64? defaultQueryLimit (get .queryLimit)
  if queryLimit ≤ 0 then throw (.invalid .queryLimit (Number.intText queryLimit.toInt))
  let httpAddress ← readOr .httpAddress SocketAddress.read? defaultAddress (get .httpAddress)
  return {
    databaseUrl := get .databaseUrl
    httpAddress
    databaseSchema
    schemaDirectory := get .schemaDirectory
    cacheLifetime
    tenants := .ofNames preferred (some legacy)
    rowDenials := .parse ((get .deniedCrudTables).getD "")
    queryDenials := .parse ((get .deniedQueryTables).getD "")
    queryLimit }

/-- The cache of a program that has just been started. -/
def newCache (s : Settings) : TableCache := { lifetime := s.cacheLifetime * Instant.perSecond }

/-- The database to connect to, which has to be set for that. -/
def connection (s : Settings) : Except SettingsFailure String :=
  match s.databaseUrl with
  | some url => .ok url
  | none => .error (.missing .databaseUrl)

end Settings
end TenantGate
