import TenantGate.Http.Service
import TenantGate.Settings.EnvFile
import TenantGate.Proofs.Server.Run
import TenantGate.Proofs.Sql.Numbering
import TenantGate.Proofs.Sql.RowBinding
import TenantGate.Proofs.Tenancy.Scope
import TenantGate.Proofs.Server.Transaction
import TenantGate.Proofs.Dict
import TenantGate.Proofs.Table.Statements
import TenantGate.Proofs.Http.Requests
import TenantGate.Proofs.Sql.Clause
import TenantGate.Proofs.Data.Interpretation
import TenantGate.Proofs.Data.Isolation
import TenantGate.Proofs.Outcome
import TenantGate.Proofs.Query.Plan
import TenantGate.Proofs.Query.Tenancy
import TenantGate.Proofs.Sql.Lexeme
import TenantGate.Proofs.Sql.Layout
import TenantGate.Proofs.Emission
import TenantGate.Proofs.Record
import TenantGate.Proofs.Sql.Writing
import TenantGate.Proofs.Page.Filters
import TenantGate.Proofs.Sql.Placeholder
import TenantGate.Proofs.Placement
import TenantGate.Proofs.Http.Atomicity
import TenantGate.Proofs.Http.Caching
import TenantGate.Proofs.Query.Scoping
import TenantGate.Proofs.Server.Postcondition
import TenantGate.Proofs.Table.Transparency
import TenantGate.Proofs.Query.Calls
import TenantGate.Proofs.Query.Segments
import TenantGate.Proofs.Query.Arrows
import TenantGate.Proofs.Number
import TenantGate.Proofs.Query.Printing
import TenantGate.Proofs.Table.Key
import TenantGate.Proofs.Sql.Form
import TenantGate.Proofs.Independence
import TenantGate.Proofs.Page.Window
import TenantGate.Proofs.Data.Paging
import TenantGate.Proofs.DenyList
import TenantGate.Proofs.Table.Lookup
import TenantGate.Proofs.Query.Limit
import TenantGate.Proofs.Http.Gates
import TenantGate.Proofs.Number.Binary64
import TenantGate.Proofs.Coercion.Numeral
import TenantGate.Proofs.Tenancy.Separation
import TenantGate.Proofs.Payload
import TenantGate.Proofs.Page.Missing
import TenantGate.Proofs.Query.Acceptance
import TenantGate.Proofs.Selection
import TenantGate.Proofs.Page.Pattern
import TenantGate.Proofs.Table.Interleaving
import TenantGate.Proofs.Time.Calendar
import TenantGate.Proofs.Time.Digits
import TenantGate.Proofs.Time.Civil
import TenantGate.Proofs.Time.RoundTrip
import TenantGate.Proofs.Number.Exact
import TenantGate.Proofs.Json.Number
import TenantGate.Proofs.Coercion.Integer
import TenantGate.Proofs.Coercion.Idempotence
import TenantGate.Proofs.Text.Separated
import TenantGate.Proofs.Table.OverlayText
import TenantGate.Proofs.Table.Catalog
import TenantGate.Proofs.Sql.Quoting
import TenantGate.Proofs.Page.Total
import TenantGate.Proofs.Table.Lifetime
import TenantGate.Proofs.Query.Order
