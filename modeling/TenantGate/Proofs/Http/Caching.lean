import TenantGate.Proofs.Http.Requests
import TenantGate.Proofs.Table.Lookup
/-!
# The cache from request to request

To serve a request the table cache is used only where tables are looked up. So what looking tables
up preserves, serving a request does (`keeps_run`), and a service that starts with a new cache
comes, request after request, only to caches that there can be (`Service.Serves.reached`). What
holds of one request with any such cache therefore holds of each request that a service is sent.
-/

namespace TenantGate

open Server TenantGate.Action

variable {α : Type} {I : TableCache → Prop}

/-- Whatever the answers, the action keeps `I` of the cache. -/
abbrev Action.Keeps (I : TableCache → Prop) (x : Action α) : Prop := Yields I x fun _ => True

namespace TenantTable

variable (t : TenantTable)

/-- Sending a statement does not touch the cache, and neither does any operation on the rows of a
table that has been entered. -/
theorem keeps_execute (st : Sql.Statement) : Keeps I (execute st) :=
  (yields_ask _).bind fun reply _ => yields_ofReply reply

theorem keeps_insert (r : Record) : Keeps I (t.insert r) := by
  refine (keeps_execute _).bind fun result _ => ?_
  split
  · exact yields_pure trivial
  · exact yields_throw

theorem keeps_find (key : Sql.Value) : Keeps I (t.find key) := by
  refine (keeps_execute _).bind fun result _ => ?_
  split
  · exact yields_pure trivial
  · exact yields_throw

theorem keeps_update (key : Sql.Value) (r : Record) : Keeps I (t.update key r) := by
  refine (keeps_execute _).bind fun result _ => ?_
  split
  · exact yields_throw
  · exact yields_pure trivial

theorem keeps_delete (key : Sql.Value) : Keeps I (t.delete key) := by
  refine (keeps_execute _).bind fun result _ => ?_
  split
  · exact yields_throw
  · exact yields_pure trivial

theorem keeps_describe (rows : List Json) (w : Window) (hasMore : Bool) (total : Option Int64) :
    Keeps I (do let paging ← Action.ofExcept (describe w hasMore total); return (rows, paging)) :=
  (yields_ofExcept fun _ _ => trivial).bind fun _ _ => yields_pure trivial

theorem keeps_page (r : Listing) (defaultSize : Int64) : Keeps I (t.page r defaultSize) := by
  refine (yields_ofExcept fun _ _ => trivial).bind fun statements _ => ?_
  dsimp only
  -- rows are counted only where the request asks for the total
  split
  · refine (keeps_execute _).bind fun result _ => ?_
    refine Yields.bind (P := fun _ => True) ?_ fun total _ => ?_
    · rw [map_eq_pure_bind]
      exact (yields_ofExcept fun _ _ => trivial).bind fun total _ => yields_pure trivial
    · exact (keeps_execute _).bind fun result _ => keeps_describe _ _ _ _
  · refine Yields.bind (P := fun _ => True) (yields_pure trivial) fun total _ => ?_
    exact (keeps_execute _).bind fun result _ => keeps_describe _ _ _ _

end TenantTable

/-! ### Looking tables up

A gate has one source of tables, asked by `enter` for a table with a key and by `answer` for the
tables of a query expression. These two are where the cache is read and written. -/

/-- The source of a gate keeps `I` of the cache where it looks tables up. -/
structure Gate.Preserves (g : Gate) (I : TableCache → Prop) : Prop where
  find : ∀ raw, Keeps I (g.source.find raw)
  findReadable : ∀ raw, Keeps I (g.source.findReadable raw)

variable {g : Gate}

/-- A name that is denied or invalid ends the action before the table is looked up; the tenant is
read into its scope afterwards. -/
theorem Gate.Preserves.enter (h : g.Preserves I) (raw : String) (tenant : Tenant) :
    Keeps I (g.enter raw tenant) := by
  refine (yields_ofExcept fun _ _ => trivial).bind fun name _ => (h.find name).bind fun _ _ => ?_
  exact (yields_ofExcept fun _ _ => trivial).bind fun _ _ => yields_pure trivial

/-- Every table of the expression is looked up, and then one statement sent. -/
theorem Gate.Preserves.answer (h : g.Preserves I) (greatest : Int64) (tenant : Tenant)
    (query : String) : Keeps I (g.answer greatest tenant query) := by
  -- Reading the expression and planning are pure; only the tables between them are looked up.
  refine (yields_ofExcept fun _ _ => trivial).bind fun e _ => ?_
  have hplanned : ∀ e : Query.Expression, Keeps I (do
      let tables ← g.findTables .empty e.tables
      let q ← Action.ofExcept (Query.plan e tenant tables g.tenants)
      let result ← execute (.select q)
      return result.rows.map Row.toJson : Action (List Json)) := by
    intro e
    refine (Gate.yields_findTables h.findReadable e.tables).bind fun tables _ => ?_
    refine (yields_ofExcept fun _ _ => trivial).bind fun q _ => ?_
    exact (TenantTable.keeps_execute _).bind fun result _ => yields_pure trivial
  dsimp only
  split
  · exact (yields_throw (P := fun _ => True)).bind fun _ _ => hplanned _
  · exact hplanned _

namespace Http.Service

variable {s : Service} {c c' : TableCache} {es : List Exchange}

/-- `BEGIN`, `COMMIT` and `ROLLBACK` leave the cache to the body. -/
theorem keeps_transaction {body : Action α} (h : Keeps I body) : Keeps I (transaction body) := by
  intro c es r c' hrun _ hc
  refine ⟨fun _ _ => trivial, ?_⟩
  -- the requests around the body do not touch the cache
  rcases transaction_cases hrun with ⟨f, -, -, rfl⟩ | ⟨es₁, a, reply, -, hbody, -⟩ |
    ⟨es₁, e, reply, -, hbody, -⟩
  · exact hc
  · exact (h hbody (fun _ _ => trivial) hc).2
  · exact (h hbody (fun _ _ => trivial) hc).2

/-- For a record only the clock is read. -/
theorem keeps_record (t : TenantTable) (mode : WriteMode) (payload : List (String × Json)) :
    Keeps I (s.record t mode payload) :=
  (yields_ask .now).bind fun _ _ => yields_ofExcept fun _ _ => trivial

/-- An operation on rows keeps of the cache what entering the table keeps. -/
theorem keeps_within (h : s.gate.Preserves I) (table : String) (tenant : Tenant)
    {f : TenantTable → Action α} (hf : ∀ t, Keeps I (f t)) :
    Keeps I (transaction (s.gate.enter table tenant >>= f)) :=
  keeps_transaction ((h.enter table tenant).bind fun t _ => hf t)

/-- The page and its total are read in one transaction. -/
theorem keeps_page (h : s.gate.Preserves I) (tenant : Tenant) (table : String) (p : Listing)
    (size : Int64) : Keeps I (s.page tenant table p size) :=
  keeps_within h table tenant fun t => (t.keeps_page p size).bind fun _ _ => yields_pure trivial

theorem keeps_create (h : s.gate.Preserves I) (tenant : Tenant) (table : String) (r : Request) :
    Keeps I (s.create tenant table r) := by
  refine (yields_ofExcept fun _ _ => trivial).bind fun payload _ => ?_
  refine keeps_within h table tenant fun t => ?_
  exact (keeps_record t _ _).bind fun record _ => (t.keeps_insert record).bind fun _ _ =>
    yields_pure trivial

theorem keeps_read (h : s.gate.Preserves I) (tenant : Tenant) (table key : String) :
    Keeps I (s.read tenant table key) := by
  refine keeps_within h table tenant fun t => ?_
  exact (yields_ofExcept fun _ _ => trivial).bind fun key _ => (t.keeps_find key).bind fun _ _ =>
    yields_pure trivial

theorem keeps_update (h : s.gate.Preserves I) (tenant : Tenant) (table key : String)
    (r : Request) : Keeps I (s.update tenant table key r) := by
  refine (yields_ofExcept fun _ _ => trivial).bind fun payload _ => ?_
  refine keeps_within h table tenant fun t => ?_
  refine (yields_ofExcept fun _ _ => trivial).bind fun key _ => ?_
  exact (keeps_record t _ _).bind fun record _ => (t.keeps_update key record).bind fun _ _ =>
    yields_pure trivial

theorem keeps_delete (h : s.gate.Preserves I) (tenant : Tenant) (table key : String) :
    Keeps I (s.delete tenant table key) := by
  refine keeps_within h table tenant fun t => ?_
  exact (yields_ofExcept fun _ _ => trivial).bind fun key _ => (t.keeps_delete key).bind fun _ _ =>
    yields_pure trivial

theorem keeps_query (h : s.queryGate.Preserves I) (tenant : Tenant) (r : Request) :
    Keeps I (s.query tenant r) := by
  refine (yields_ofExcept fun _ _ => trivial).bind fun query _ => keeps_transaction ?_
  exact (h.answer _ tenant query).bind fun _ _ => yields_pure trivial

/-! ### Serving

The endpoints read the header and the path before they do anything else; none of it has to do with
the cache. -/

/-- A missing or unreadable header is answered at once. -/
theorem keeps_withTenant {r : Request} {go : Tenant → Action Response}
    (hgo : ∀ tenant, Keeps I (go tenant)) : Keeps I (withTenant r go) :=
  (yields_ofExcept fun _ _ => trivial).bind fun tenant _ => hgo tenant

/-- So is a part of the path that is no text. -/
theorem keeps_withTable {part : String} {go : String → Action Response}
    (hgo : ∀ table, Keeps I (go table)) : Keeps I (withTable part go) := by
  unfold withTable
  split
  · exact hgo _
  · exact yields_pure trivial

theorem keeps_withRow {part key : String} {go : String → String → Action Response}
    (hgo : ∀ table key, Keeps I (go table key)) : Keeps I (withRow part key go) := by
  refine keeps_withTable fun table => ?_
  split
  · exact hgo _ _
  · exact yields_pure trivial

/-- What looking tables up keeps of the cache, every endpoint keeps. -/
theorem keeps_run (h : s.gate.Preserves I) (r : Request) (e : Endpoint) : Keeps I (s.run r e) := by
  cases e with
  | health => exact yields_pure trivial
  | version => exact yields_pure trivial
  | ready =>
    refine (yields_ask _).bind fun reply _ => ?_
    cases reply with
    | ok result => exact yields_pure trivial
    | error f => exact yields_pure trivial
  | query => exact keeps_withTenant fun tenant => keeps_query ⟨h.find, h.findReadable⟩ tenant r
  | create t =>
    exact keeps_withTenant fun tenant => keeps_withTable fun table => keeps_create h tenant table r
  | list t =>
    exact keeps_withTenant fun tenant => keeps_withTable fun table => keeps_page h tenant table _ _
  | select t =>
    refine keeps_withTenant fun tenant => keeps_withTable fun table => ?_
    exact (yields_ofExcept fun _ _ => trivial).bind fun p _ => keeps_page h tenant table p _
  | read t k =>
    exact keeps_withTenant fun tenant => keeps_withRow fun table key =>
      keeps_read h tenant table key
  | update t k =>
    exact keeps_withTenant fun tenant => keeps_withRow fun table key =>
      keeps_update h tenant table key r
  | delete t k =>
    exact keeps_withTenant fun tenant => keeps_withRow fun table key =>
      keeps_delete h tenant table key

end Http.Service

/-- To serve a request leaves a cache that there can be. -/
theorem TableCache.Reached.serve {s : Http.Service} {r : Http.Request} {response : Http.Response}
    {c c' : TableCache} {es : List Exchange} (hc : c.Reached)
    (h : Program.Run (s.serve r c) es (response, c')) : c'.Reached := by
  have hgate : s.gate.Preserves Reached :=
    ⟨fun raw c es x c' h _ hc => ⟨fun _ _ => trivial, hc.find h⟩,
      fun raw c es x c' h _ hc => ⟨fun _ _ => trivial, hc.findReadable h⟩⟩
  rcases Http.Service.run_serve_cases h with ⟨-, rfl, -⟩ | ⟨e, x, -, h, -⟩
  · exact hc
  · exact (Http.Service.keeps_run hgate r e h (fun _ _ => trivial) hc).2

/-! ### One request after the other

A service is a run of requests, the cache going from one to the next. The step is
`TableCache.Reached.serve`; the induction over the requests gives each of them a cache that there
can be, and with a new cache at the start nothing is left to assume (`reached_new`). -/

namespace Http.Service

/-- A request that has been served: what was exchanged with the server for it, and the answer. -/
structure Served where
  request : Request
  exchanges : List Exchange
  response : Response

/-- Requests served one after the other, each with the cache that the one before it has left. -/
inductive Serves (s : Service) : TableCache → List Served → TableCache → Prop
  | nil (c : TableCache) : Serves s c [] c
  | cons {c c₁ c' : TableCache} {x : Served} {served : List Served}
      (h : Program.Run (s.serve x.request c) x.exchanges (x.response, c₁))
      (hrest : Serves s c₁ served c') : Serves s c (x :: served) c'

/-- From a cache that there can be, each request is served with one, and one is left at the end. -/
theorem Serves.reached {s : Service} {served : List Served} {c c' : TableCache}
    (h : s.Serves c served c') (hc : c.Reached) :
    c'.Reached ∧ ∀ x ∈ served, ∃ c₀ c₁ : TableCache, c₀.Reached ∧
      Program.Run (s.serve x.request c₀) x.exchanges (x.response, c₁) := by
  -- The induction is on the requests; the cache that one leaves is the one that the next begins
  -- with.
  induction h with
  | nil c => exact ⟨hc, List.forall_mem_nil _⟩
  | @cons c c₁ c' x served h hrest ih =>
    obtain ⟨hlast, hserved⟩ := ih (hc.serve h)
    exact ⟨hlast, List.forall_mem_cons.2 ⟨⟨c, c₁, hc, h⟩, hserved⟩⟩

end Http.Service
end TenantGate
