import TenantGate.Proofs.Gate
import TenantGate.Proofs.Http.Caching
/-!
# Deny lists over HTTP

A request refers to the table that its path names, or to those of the query expression in its body
(`tablesOf`). Whichever endpoint it is for, the deny list of that endpoint decides about them under
the names that go out to the server (`Service.serve_gated`).
-/

namespace TenantGate.Http

open Server TenantGate.Action

variable {text : String} {raws : List String} {es : List Exchange}

/-! ### Transactions

`BEGIN`, `COMMIT` and `ROLLBACK` go to the server even for a table that is denied. They name no
table, so only the body is looked at. -/

/-- What is about no table may be asked. -/
theorem gated_of_tables_eq_nil {q : Server.Request} (hnone : q.statement? = none)
    (htables : q.tables = []) : Gated text raws q where
  denied _ := ⟨hnone, htables⟩
  named name hname := by
    rw [htables] at hname
    cases hname

/-- The requests around a transaction are about no table. -/
theorem gated_of_transaction {α : Type} {body : Action α} {c c' : TableCache}
    {x : Except Failure α} (hbody : ∀ {es r}, body.Run c es r c' → ∀ e ∈ es, Gated text raws e.1)
    (h : (transaction body).Run c es x c') : ∀ e ∈ es, Gated text raws e.1 := by
  have hbegin : Gated text raws .begin := gated_of_tables_eq_nil rfl rfl
  have hcommit : Gated text raws .commit := gated_of_tables_eq_nil rfl rfl
  have hrollback : Gated text raws .rollback := gated_of_tables_eq_nil rfl rfl
  rcases transaction_cases h with
    ⟨f, rfl, -, -⟩ | ⟨es₁, a, reply, rfl, h, -⟩ | ⟨es₁, e, reply, rfl, h, -⟩
  · simpa using hbegin
  · rw [List.forall_mem_cons, List.forall_mem_append, List.forall_mem_singleton]
    exact ⟨hbegin, hbody h, hcommit⟩
  · rw [List.forall_mem_cons, List.forall_mem_append, List.forall_mem_singleton]
    exact ⟨hbegin, hbody h, hrollback⟩

/-! ### Requests

An endpoint on rows is gated through the one table that its path names. The endpoint for query
expressions has a deny list of its own, and is gated through all tables that the expression refers
to. -/

/-- The tables that a request refers to, as they are written: the one that the path names, or those
of the query expression in the body. -/
def tablesOf (r : Request) : Endpoint → List String
  | .query =>
    match readQuery r with
    | .ok query => Query.tablesOf query
    | .error _ => []
  | e => (e.table?.bind decodePart?).toList

namespace Service

variable {s : Service} {r : Request} {e : Endpoint} {c c' : TableCache}
  {x : Except Failure Response}

/-- The deny list that an endpoint goes by. -/
def denials (s : Service) : Endpoint → DenyList
  | .query => s.settings.queryDenials
  | _ => s.settings.rowDenials

/-- Where the path names a table, the deny list for rows decides. -/
theorem denials_of_table? {part : String} (he : e.table? = some part) :
    s.denials e = s.gate.denials := by
  cases e with
  | query => cases he
  | _ => rfl

/-- Where the path names a table, it is the only one that the request refers to. -/
theorem tablesOf_of_table? {part table : String} (he : e.table? = some part)
    (htable : decodePart? part = some table) : tablesOf r e = [table] := by
  have hpath : tablesOf r e = (e.table?.bind decodePart?).toList := by
    cases e with
    | query => cases he
    | _ => rfl
  rw [hpath, he, Option.bind_some, htable]
  rfl

/-- A body that cannot be read is answered before the transaction begins. -/
theorem gated_query (hdenials : s.settings.queryDenials = .parse text) (hc : c.IsNamed)
    {tenant : Tenant} (h : (s.query tenant r).Run c es x c') :
    ∀ q ∈ es, Gated text (tablesOf r .query) q.1 := by
  rcases run_ofExcept_bind_iff.1 h with ⟨f, -, rfl, -, -⟩ | ⟨query, hread, h⟩
  · simp
  rw [tablesOf, hread]
  refine gated_of_transaction (fun h => ?_) h
  rcases run_bind_iff.1 h with ⟨f, -, h⟩ | ⟨asked, after, rows, c₁, rfl, h, hafter⟩
  · exact Gate.gated_answer hdenials hc h
  · rw [(run_pure_iff.1 hafter).1, List.append_nil]
    exact Gate.gated_answer hdenials hc h

/-- One case for the endpoints on rows, which all enter the table of the path first, and one for
each of the others. -/
theorem gated_run (hdenials : s.denials e = .parse text) (hc : c.IsNamed)
    (h : (s.run r e).Run c es x c') : ∀ q ∈ es, Gated text (tablesOf r e) q.1 := by
  cases htable : e.table? with
  | some part =>
    rw [denials_of_table? htable] at hdenials
    rcases enters_run htable h with rfl | ⟨tenant, table, -, hpart, rfl | ⟨f, x, c', hf, h⟩⟩
    · simp
    · simp
    · rw [tablesOf_of_table? htable hpart]
      exact gated_of_transaction (fun h => Gate.gated_enter_bind hdenials hc hf h) h
  | none =>
    cases e with
    | health => simp [(run_pure_iff.1 h).1]
    | version => simp [(run_pure_iff.1 h).1]
    | ready =>
      obtain ⟨reply, es', rfl, hanswer⟩ := run_ask_bind_iff.1 h
      have hnone : es' = [] := by
        cases reply with
        | ok result => exact (run_pure_iff.1 hanswer).1
        | error f => exact (run_pure_iff.1 hanswer).1
      rw [hnone, List.forall_mem_singleton]
      -- the one statement names no table
      exact ⟨by simp [tablesOf, Endpoint.table?], nofun⟩
    | query =>
      rcases run_withTenant h with rfl | ⟨tenant, -, h⟩
      · simp
      · exact gated_query hdenials hc h
    | _ => cases htable

/-- One request, with any cache that there can be. -/
theorem gated_serve {response : Response} (hc : c.Reached) (he : endpointOf? r = some e)
    (hdenials : s.denials e = .parse text) (h : Program.Run (s.serve r c) es (response, c')) :
    ∀ x ∈ es, Gated text (tablesOf r e) x.1 := by
  rcases run_serve he h with rfl | ⟨x, h⟩
  · simp
  · exact gated_run hdenials hc.isNamed h

/-- A deny list keeps tables out, however a request writes them: where it denies one of them,
neither the catalog is read nor a statement sent, and whatever table is named to the server is
permitted and has a plain name. This holds of a request over HTTP with any cache there can be, of
each request that is sent to a service since its start, and of query expressions, whose answers are
limited besides. -/
theorem serve_gated :
    (∀ ⦃c : TableCache⦄, c.Reached →
      ∀ ⦃s : Service⦄ ⦃r : Request⦄ ⦃e : Endpoint⦄ ⦃text : String⦄ ⦃es : List Exchange⦄
      ⦃response : Response⦄ ⦃c' : TableCache⦄, endpointOf? r = some e →
      s.denials e = .parse text → Program.Run (s.serve r c) es (response, c') →
      ∀ x ∈ es, Gated text (tablesOf r e) x.1) ∧
    (∀ ⦃s : Service⦄ ⦃served : List Served⦄ ⦃c' : TableCache⦄,
      s.Serves s.settings.newCache served c' →
      ∀ x ∈ served, ∀ ⦃e : Endpoint⦄ ⦃text : String⦄, endpointOf? x.request = some e →
      s.denials e = .parse text → ∀ y ∈ x.exchanges, Gated text (tablesOf x.request e) y.1) ∧
    ∀ ⦃c : TableCache⦄, c.Reached →
      ∀ ⦃g : Gate⦄ ⦃text query : String⦄ ⦃greatest : Int64⦄ ⦃tenant : Tenant⦄ ⦃es : List Exchange⦄
      ⦃rows : Except Failure (List Json)⦄ ⦃c' : TableCache⦄, g.denials = .parse text →
      (g.answer greatest tenant query).Run c es rows c' →
      (∀ x ∈ es, Gated text (Query.tablesOf query) x.1) ∧
        (0 < greatest → ∀ st ∈ statementsOf es, Query.Limits query greatest st) := by
  refine ⟨?_, ?_, ?_⟩
  · intro c hc s r e text es response c' he hdenials h
    exact gated_serve hc he hdenials h
  · intro s served c' h x hx e text he hdenials
    obtain ⟨-, hserved⟩ := h.reached (.new _)
    obtain ⟨c₀, c₁, hc₀, hrun⟩ := hserved x hx
    exact gated_serve hc₀ he hdenials hrun
  · intro c hc g text query greatest tenant es rows c' hdenials h
    exact ⟨Gate.gated_answer hdenials hc.isNamed h,
      fun hgreatest => Gate.answer_limited hgreatest hc.isNamed h⟩

/-- The sign for kelvin is a `k` in lower case, so a path with it refers to a table that is denied,
also when it is asked for after a table that is permitted. An expression whose tables are permitted
takes five rows of the table `notes`. -/
theorem serve_gated_kelvin :
    let settings : Settings :=
      { databaseUrl := none, httpAddress := Settings.defaultAddress, databaseSchema := "public"
        schemaDirectory := none, cacheLifetime := 300, tenants := .default
        rowDenials := .parse "secrets, KEYS", queryDenials := {}, queryLimit := 200 }
    let service : Service := ⟨settings, fun _ => none⟩
    let permitted : Request :=
      { method := "GET", target := "/crud/notes", headers := [("x-tenant-id", "42")] }
    let r : Request :=
      { method := "GET", target := "/crud/%20%E2%84%AAeys", headers := [("x-tenant-id", "42")] }
    let script : Script :=
      { catalog := fun _ _ => .ok
          (["id", "company_id"].map fun name => ⟨some name, some "bigint", none, none⟩, some "id")
        replies := [] }
    let tenant : Tenant := ⟨"42", by decide +kernel, by decide⟩
    let g : Gate := ⟨⟨"public", fun _ => none⟩, .parse "secrets, KEYS", .default⟩
    let query := "table('NOTES n')->take(5)"
    let first := (service.serve permitted settings.newCache).play (fun q s => s.reply q) script
    let second := (service.serve r first.1.2).play (fun q s => s.reply q) first.2.2
    let answered := ((g.answer 200 tenant query settings.newCache).play
      (fun q s => s.reply q) script).2.1
    endpointOf? r = some (.list "%20%E2%84%AAeys") ∧
      (statementsOf first.2.1).map (fun st => st.tables.map (·.name)) = [["notes"]] ∧
      (∀ x ∈ second.2.1, x.1.statement? = none ∧ x.1.tables = []) ∧
      (statementsOf answered).map (fun st => st.tables.map (·.name)) = [["notes"]] ∧
      ∀ st ∈ statementsOf answered, st.EndsInLimit 5 := by
  intro settings service permitted r script tenant g query first second answered
  obtain ⟨-, hserves, hanswer⟩ := serve_gated
  have he : endpointOf? r = some (.list "%20%E2%84%AAeys") := by decide +kernel
  have htables : tablesOf r (.list "%20%E2%84%AAeys") = [" \u212Aeys"] := by decide +kernel
  have hdenies : DenyList.Denies "secrets, KEYS" " \u212Aeys" :=
    ⟨" KEYS", by decide +kernel, .inr (by decide +kernel)⟩
  have hlimit : (Query.Expression.read query).toOption.map (·.limit) = some (some 5) := by
    decide +kernel
  have hrun : service.Serves settings.newCache
      [⟨permitted, first.2.1, first.1.1⟩, ⟨r, second.2.1, second.1.1⟩] second.1.2 :=
    .cons (Program.play_run (fun q (s : Script) => s.reply q) _ script)
      (.cons (Program.play_run (fun q (s : Script) => s.reply q) _ first.2.2) (.nil _))
  refine ⟨he, by decide +kernel, fun x hx => ?_, by decide +kernel, fun st hst => ?_⟩
  · have hgated := hserves hrun ⟨r, second.2.1, second.1.1⟩ (by simp) he rfl x hx
    rw [htables] at hgated
    exact hgated.denied ⟨_, List.mem_singleton_self _, hdenies⟩
  · obtain ⟨limit, hends, -, -, htake⟩ := (@hanswer _ (.new settings.newCache.lifetime) g
      "secrets, KEYS" query 200 tenant _ _ _ rfl
      (Program.play_run (fun q (s : Script) => s.reply q) _ script)).2 (by decide) st hst
    obtain ⟨e, hread, he⟩ := Option.map_eq_some_iff.1 hlimit
    rwa [htake e 5 (toOption_eq_some_iff.1 hread) he (by decide)] at hends

end Service
end TenantGate.Http
