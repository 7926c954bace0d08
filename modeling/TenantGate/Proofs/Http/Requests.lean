import TenantGate.Proofs.Server.Transaction
import TenantGate.Proofs.Table.Access
/-!
# Requests for rows

Six endpoints work on the rows of a table that the path names. Each of them reads the tenant from
the header, enters the table in a transaction, and stays within its scope. So whatever the request
holds and the server answers, every statement that is sent is bound to the tenant of the header
(`serve_bound_to_tenant`).
-/

namespace TenantGate.Http

open Server TenantGate.Action

/-! ### Endpoints on rows

Where a request leads is decided by its path and its method alone. -/

/-- What a request does, if its path leads somewhere and the method is answered there. -/
def endpointOf? (r : Request) : Option Endpoint :=
  (Route.ofParts (Target.read r.target).parts).bind (·.endpoint? r.method)

/-- The part of the path that names a table, where an endpoint works on the rows of one. -/
def Endpoint.table? : Endpoint → Option String
  | health | version | ready | query => none
  | create t | list t | select t => some t
  | read t _ | update t _ | delete t _ => some t

/-- The tenant of a request is the trimmed text of its header. -/
theorem readTenant_eq_ok {r : Request} {tenant : Tenant} (h : readTenant r = .ok tenant) :
    ∃ raw, r.visibleHeader? "X-Tenant-ID" = some raw ∧ tenant.text = Text.trim raw := by
  unfold readTenant at h
  split at h
  · next raw hraw => exact ⟨raw, hraw, Tenant.text_of_read h⟩
  · cases h

/-- A part of the path is read as what it stands for after decoding. -/
theorem readPart_eq_ok {name part s : String} (h : readPart name part = .ok s) :
    decodePart? part = some s := by
  unfold readPart at h
  split at h
  · next s' hs =>
    cases h
    exact hs
  · cases h

namespace Service

variable {s : Service} {r : Request} {c c' : TableCache} {es : List Exchange}

/-! ### Transactions within a scope

The operations on rows have one shape: enter the table as the tenant, then make requests of the
scope only. `Opens` says this of the exchanges, so that the endpoints that share it need not be told
apart afterwards. -/

/-- A transaction that enters a table and makes there only requests of its scope is confined. -/
theorem confines_of_transaction {α : Type} {raw : String} {tenant : Tenant}
    {f : TenantTable → Action α} {x : Except Failure α} (hf : ∀ t, (f t).Asks t.Makes)
    (h : (transaction (s.gate.enter raw tenant >>= f)).Run c es x c') :
    s.gate.Confines raw tenant c es := by
  rcases exists_run_of_transaction h with hnone | ⟨es₁, x₁, before, after, hes, hbody, hst⟩
  · exact .inl hnone
  · exact (Gate.confines_of_enter_bind (fun t => (hf t).imp fun _ => (·.allows)) hbody).within
      hes hst

/-- For a record only the clock is read, which is in every scope. -/
theorem asks_record (s : Service) (t : TenantTable) (mode : WriteMode)
    (payload : List (String × Json)) : (s.record t mode payload).Asks t.Makes :=
  (asks_ask .now).bind fun _ => asks_ofExcept _

variable {tenant : Tenant} {table : String} {x : Except Failure Response}

/-- The exchanges are those of a transaction in which the tenant enters the table and makes there
only requests of its scope, or there are none. -/
def Opens (s : Service) (tenant : Tenant) (table : String) (c : TableCache) (es : List Exchange) :
    Prop :=
  es = [] ∨ ∃ (f : TenantTable → Action Response) (x : Except Failure Response) (c' : TableCache),
    (∀ t, (f t).Asks t.Makes) ∧ (transaction (s.gate.enter table tenant >>= f)).Run c es x c'

/-- The record is made inside the transaction, after the table was entered. -/
theorem opens_create (h : (s.create tenant table r).Run c es x c') : s.Opens tenant table c es := by
  rcases run_ofExcept_bind_iff.1 h with ⟨e, -, rfl, -, -⟩ | ⟨payload, -, h⟩
  · exact .inl rfl
  · refine .inr ⟨_, x, c', fun t => ?_, h⟩
    exact (s.asks_record t .insert payload).bind fun record =>
      (t.asks_insert record).bind fun key => asks_pure _

/-- A page and its total are read in one transaction. -/
theorem opens_page {p : Listing} {size : Int64}
    (h : (s.page tenant table p size).Run c es x c') : s.Opens tenant table c es := by
  refine .inr ⟨_, x, c', fun t => ?_, h⟩
  exact (t.asks_page_of (fun h _ => .execute h) p size).bind fun _ => asks_pure _

/-- A body that is no listing is answered before the transaction begins. -/
theorem opens_select (h : (s.select tenant table r).Run c es x c') : s.Opens tenant table c es := by
  -- either the body is refused, or what follows is a page
  rcases run_ofExcept_bind_iff.1 h with ⟨e, -, rfl, -, -⟩ | ⟨p, -, h⟩
  · exact .inl rfl
  · exact opens_page h

theorem opens_read {key : String} (h : (s.read tenant table key).Run c es x c') :
    s.Opens tenant table c es := by
  refine .inr ⟨_, x, c', fun t => ?_, h⟩
  exact (asks_ofExcept _).bind fun key =>
    (t.asks_find_of (fun h _ => .execute h) key).bind fun row => asks_pure _

theorem opens_update {key : String} (h : (s.update tenant table key r).Run c es x c') :
    s.Opens tenant table c es := by
  rcases run_ofExcept_bind_iff.1 h with ⟨e, -, rfl, -, -⟩ | ⟨payload, -, h⟩
  · exact .inl rfl
  · refine .inr ⟨_, x, c', fun t => ?_, h⟩
    exact (asks_ofExcept _).bind fun key => (s.asks_record t .update payload).bind fun record =>
      (t.asks_update_of (fun h _ => .execute h) key record).bind fun _ => asks_pure _

theorem opens_delete {key : String} (h : (s.delete tenant table key).Run c es x c') :
    s.Opens tenant table c es := by
  refine .inr ⟨_, x, c', fun t => ?_, h⟩
  exact (asks_ofExcept _).bind fun key =>
    (t.asks_delete_of (fun h _ => .execute h) key).bind fun _ => asks_pure _

/-! ### Reading the header and the path

Each of these parts of a request is read before anything is exchanged; where it cannot be read,
nothing is. -/

/-- Without a tenant nothing is exchanged; with one, the request goes on. -/
theorem run_withTenant {go : Tenant → Action Response} (h : (withTenant r go).Run c es x c') :
    es = [] ∨ ∃ tenant, readTenant r = .ok tenant ∧ (go tenant).Run c es x c' := by
  rcases run_ofExcept_bind_iff.1 h with ⟨e, -, rfl, -, -⟩ | ⟨tenant, htenant, h⟩
  · exact .inl rfl
  · exact .inr ⟨tenant, htenant, h⟩

/-- The same for the table that the path names. -/
theorem run_withTable {part : String} {go : String → Action Response}
    (h : (withTable part go).Run c es x c') :
    es = [] ∨ ∃ table, decodePart? part = some table ∧ (go table).Run c es x c' := by
  unfold withTable at h
  split at h
  · next table htable => exact .inr ⟨table, readPart_eq_ok htable, h⟩
  · exact .inl (run_pure_iff.1 h).1

/-- The same for the table and the key that the path names. -/
theorem run_withRow {part key : String} {go : String → String → Action Response}
    (h : (withRow part key go).Run c es x c') :
    es = [] ∨ ∃ table k, decodePart? part = some table ∧ (go table k).Run c es x c' := by
  rcases run_withTable h with hnil | ⟨table, htable, h⟩
  · exact .inl hnil
  split at h
  · next k _ => exact .inr ⟨table, k, htable, h⟩
  · exact .inl (run_pure_iff.1 h).1

/-- There are no exchanges, or they are those of a transaction in which the tenant of the request
enters the table that a part of the path names. -/
def Enters (s : Service) (r : Request) (part : String) (c : TableCache) (es : List Exchange) :
    Prop :=
  es = [] ∨ ∃ tenant table, readTenant r = .ok tenant ∧ decodePart? part = some table ∧
    s.Opens tenant table c es

/-- Header and path together, for an endpoint on a table. -/
theorem enters_withTable {part : String} {go : Tenant → String → Action Response}
    (hgo : ∀ {tenant table}, (go tenant table).Run c es x c' → s.Opens tenant table c es)
    (h : (withTenant r fun tenant => withTable part (go tenant)).Run c es x c') :
    s.Enters r part c es := by
  rcases run_withTenant h with rfl | ⟨tenant, htenant, h⟩
  · exact .inl rfl
  rcases run_withTable h with rfl | ⟨table, htable, h⟩
  · exact .inl rfl
  · exact .inr ⟨tenant, table, htenant, htable, hgo h⟩

/-- Header and path together, for an endpoint on one row. -/
theorem enters_withRow {part key : String} {go : Tenant → String → String → Action Response}
    (hgo : ∀ {tenant table k}, (go tenant table k).Run c es x c' → s.Opens tenant table c es)
    (h : (withTenant r fun tenant => withRow part key (go tenant)).Run c es x c') :
    s.Enters r part c es := by
  rcases run_withTenant h with rfl | ⟨tenant, htenant, h⟩
  · exact .inl rfl
  rcases run_withRow h with rfl | ⟨table, k, htable, h⟩
  · exact .inl rfl
  · exact .inr ⟨tenant, table, htenant, htable, hgo h⟩

/-! ### Answers

From the endpoint to the request: what `run` exchanges is what `serve` exchanges, as the response is
made after the last exchange. -/

/-- Whatever an endpoint on rows does, it does in a table that the tenant enters. -/
theorem enters_run {e : Endpoint} {part : String} (he : e.table? = some part)
    (h : (s.run r e).Run c es x c') : s.Enters r part c es := by
  cases e with
  | health => cases he
  | version => cases he
  | ready => cases he
  | query => cases he
  | create t =>
    cases he
    exact enters_withTable opens_create h
  | list t =>
    cases he
    exact enters_withTable opens_page h
  | select t =>
    cases he
    exact enters_withTable opens_select h
  | read t k =>
    cases he
    exact enters_withRow opens_read h
  | update t k =>
    cases he
    exact enters_withRow opens_update h
  | delete t k =>
    cases he
    exact enters_withRow opens_delete h

/-- The exchanges hold no statement, or are confined to the table and the tenant of the request. -/
def Confines (s : Service) (r : Request) (part : String) (c : TableCache) (es : List Exchange) :
    Prop :=
  statementsOf es = [] ∨
    ∃ tenant table, readTenant r = .ok tenant ∧ decodePart? part = some table ∧
      s.gate.Confines table tenant c es

/-- Whatever an endpoint on rows does is confined. -/
theorem confines_run {e : Endpoint} {part : String} (he : e.table? = some part)
    (h : (s.run r e).Run c es x c') : s.Confines r part c es := by
  rcases enters_run he h with rfl | ⟨tenant, table, htenant, htable, rfl | ⟨f, x, c', hf, h⟩⟩
  · exact .inl rfl
  · exact .inl rfl
  · exact .inr ⟨tenant, table, htenant, htable, confines_of_transaction hf h⟩

/-- The response that is given for the result of an action. -/
def told : Except Failure Response → Response
  | .ok response => response
  | .error e => .ofError e

/-- To respond, the action is run and its failure told. -/
theorem run_respond {a : Action Response} {response : Response}
    (h : Program.Run (respond a c) es (response, c')) :
    ∃ x, a.Run c es x c' ∧ response = told x := by
  obtain ⟨es₁, es₂, ⟨x, c₁⟩, rfl, ha, h⟩ := Program.run_bind_iff.1 h
  have hend : es₂ = [] ∧ (response, c') = (told x, c₁) := by
    cases x with
    | ok response => exact Program.run_done_iff.1 h
    | error e => exact Program.run_done_iff.1 h
  obtain ⟨rfl, hr⟩ := hend
  obtain ⟨rfl, rfl⟩ := Prod.mk.inj hr
  exact ⟨x, by rwa [List.append_nil], rfl⟩

/-- A request is answered at once, because it leads nowhere or announces a body that is too long,
or its endpoint is run. -/
theorem run_serve_cases {response : Response}
    (h : Program.Run (s.serve r c) es (response, c')) :
    (es = [] ∧ c' = c ∧ response.status ∈ [404, 405, 413]) ∨
      ∃ e x, endpointOf? r = some e ∧ (s.run r e).Run c es x c' ∧
        response.status = (told x).status := by
  have hatonce {x : Response} (hx : x.status ∈ [404, 405, 413])
      (h : (Program.done (x, c)).Run es (response, c')) :
      es = [] ∧ c' = c ∧ response.status ∈ [404, 405, 413] := by
    obtain ⟨rfl, hr⟩ := Program.run_done_iff.1 h
    obtain ⟨rfl, rfl⟩ := Prod.mk.inj hr
    exact ⟨rfl, rfl, hx⟩
  unfold serve at h
  unfold endpointOf?
  cases hroute : Route.ofParts (Target.read r.target).parts with
  | none =>
    rw [hroute] at h
    refine .inl (hatonce ?_ h)
    split <;> decide
  | some route =>
    rw [hroute] at h
    dsimp only at h
    cases hendpoint : route.endpoint? r.method with
    | none =>
      rw [hendpoint] at h
      refine .inl (hatonce ?_ h)
      dsimp only
      split <;> decide
    | some e =>
      rw [hendpoint] at h
      dsimp only at h
      split at h
      · refine .inl (hatonce ?_ h)
        split <;> decide
      · obtain ⟨es₁, es₂, ⟨answer, c₁⟩, rfl, hanswer, h⟩ := Program.run_bind_iff.1 h
        obtain ⟨x, hx, rfl⟩ := run_respond hanswer
        obtain ⟨rfl, hr⟩ := Program.run_done_iff.1 h
        obtain ⟨hresponse, rfl⟩ := Prod.mk.inj hr
        -- a `HEAD` request only leaves the body out
        have hstatus : response.status = (told x).status := by
          rw [hresponse]
          split <;> rfl
        rw [List.append_nil]
        exact .inr ⟨e, x, hendpoint, hx, hstatus⟩

/-- To serve a request, its endpoint is run, unless it announces a body that is too long. -/
theorem run_serve {e : Endpoint} {response : Response} (he : endpointOf? r = some e)
    (h : Program.Run (s.serve r c) es (response, c')) :
    es = [] ∨ ∃ x, (s.run r e).Run c es x c' := by
  rcases run_serve_cases h with ⟨hnil, -⟩ | ⟨e', x, he', hx, -⟩
  · exact .inl hnil
  · obtain rfl := Option.some.inj (he.symm.trans he')
    exact .inr ⟨x, hx⟩

/-- Every statement sent for a request on rows is bound to the tenant that its header names: it is
about the table that was found under the name in the path, and bound, in that table's tenant
column, to the trimmed header coerced to the column's kind. -/
theorem serve_bound_to_tenant {e : Endpoint} {part : String} {response : Response}
    (he : endpointOf? r = some e) (ht : e.table? = some part)
    (hrun : Program.Run (s.serve r c) es (response, c')) :
    statementsOf es = [] ∨
      ∃ raw table before lookup after t column v,
        r.visibleHeader? "X-Tenant-ID" = some raw ∧ decodePart? part = some table ∧
        es = before ++ lookup ++ after ∧ s.gate.Finds table c lookup t ∧
        s.settings.tenants.IsColumnOf t column ∧
        coerce (t.kindOf? column) (.string (Text.trim raw)) = .ok v ∧ v.isNull = false ∧
        ∀ st ∈ statementsOf es,
          st.BoundTo t.sqlName column ⟨v, t.parameterType? column⟩ ∧
            st.ShownBound column ⟨v, t.parameterType? column⟩ := by
  rcases run_serve he hrun with rfl | ⟨x, h⟩
  · exact .inl rfl
  rcases confines_run ht h with hnone | ⟨tenant, table, htenant, htable, hconfines⟩
  · exact .inl hnone
  rcases hconfines with hnone | ⟨before, lookup, after, t, hes, hfinds, hscope, hbound⟩
  · exact .inl hnone
  obtain ⟨raw, hraw, htext⟩ := readTenant_eq_ok htenant
  obtain ⟨hcolumn, hvalue⟩ := Scope.ofTable_eq_ok_iff.1 hscope
  rw [htext] at hvalue
  refine .inr ⟨raw, table, before, lookup, after, t.table, t.scope.column, t.scope.value, hraw,
    htable, hes, hfinds, hcolumn, hvalue, Scope.isNull_of_ofTable hscope, ?_⟩
  intro st hst
  exact ⟨hbound st hst, (hbound st hst).shownBound⟩

/-- A list with its total: both statements are bound to tenant 42, whom the header names, beside the
condition that the request itself puts on the tenant column. -/
theorem serve_bound_to_tenant_list :
    let settings : Settings :=
      { databaseUrl := none, httpAddress := Settings.defaultAddress, databaseSchema := "public"
        schemaDirectory := none, cacheLifetime := 300, tenants := .default, rowDenials := {}
        queryDenials := {}, queryLimit := 200 }
    let r : Request :=
      { method := "GET", target := "/crud/notes?with_total=1&company_id=7"
        headers := [("x-tenant-id", " 42 ")] }
    let script : Script :=
      { catalog := fun _ _ => .ok
          (["id", "company_id"].map fun name => ⟨some name, some "bigint", none, none⟩, some "id")
        replies := [.ok { rows := [[("total", .int .eight 0)]] }] }
    let es := ((serve ⟨settings, fun _ => none⟩ r settings.newCache).play
      (fun q s => s.reply q) script).2.1
    let filter : Sql.Filter :=
      ⟨[.compare ⟨none, "company_id"⟩ .equal ⟨.int 42, none⟩,
        .compare ⟨none, "company_id"⟩ .equal ⟨.int 7, none⟩], []⟩
    let total : Sql.Statement := .count ⟨"public", "notes"⟩ filter
    let page : Sql.Statement := .select
      { outputs := [⟨⟨none, "id"⟩, false, none⟩, ⟨⟨none, "company_id"⟩, false, none⟩]
        table := ⟨"public", "notes"⟩, filter, extent := .slice 101 0 }
    endpointOf? r = some (.list "notes") ∧ statementsOf es = [total, page] ∧
      ∃ (raw : String) (t : Table) (column : String) (v : Sql.Value),
        r.visibleHeader? "X-Tenant-ID" = some raw ∧
        coerce (t.kindOf? column) (.string (Text.trim raw)) = .ok v ∧ v.isNull = false ∧
        ∀ st ∈ [total, page], st.BoundTo t.sqlName column ⟨v, t.parameterType? column⟩ := by
  intro settings r script es filter total page
  have he : endpointOf? r = some (.list "notes") := by decide +kernel
  have hst : statementsOf es = [total, page] := by decide +kernel
  refine ⟨he, hst, ?_⟩
  rcases serve_bound_to_tenant he rfl (Program.play_run (fun q s => s.reply q) _ script) with
    hnone | ⟨raw, table, before, lookup, after, t, column, v, hraw, -, -, -, -, hv, hnull, hbound⟩
  · exact absurd (hst.symm.trans hnone) (List.cons_ne_nil _ _)
  · exact ⟨raw, t, column, v, hraw, hv, hnull, fun st h => (hbound st (hst ▸ h)).1⟩

end Service
end TenantGate.Http
