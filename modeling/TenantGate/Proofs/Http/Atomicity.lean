import TenantGate.Proofs.Http.Requests
import TenantGate.Proofs.Table.Sending
/-!
# Requests are atomic

A request for rows is answered out of one transaction, and what becomes of the transaction goes with
the response (`Settled`): it is committed for a success, rolled back for a failure, and not begun
where the request cannot even be read. A refused request has not sent a statement, and no request
sends more than one but a page with its total (`serve_atomic`).

What the operations send is known (`RefusesFirst`), so only the order of the parts of a transaction
is looked at here: reads first, and then one operation.
-/

namespace TenantGate.Http

open Server TenantGate.Action

/-! ### Successes and refusals

Two kinds of responses, told apart by their status alone. A refusal is a failure, and no success is.
-/

namespace Response

/-- A response with a status between 200 and 299. -/
def IsSuccess (r : Response) : Prop := 200 ≤ r.status ∧ r.status < 300

/-- A response that tells a validation failure or a bad request. -/
def IsRefusal (r : Response) : Prop := r.status = 422 ∨ r.status = 400

theorem not_isSuccess_of_isRefusal {r : Response} (h : r.IsRefusal) : ¬ r.IsSuccess := by
  rintro ⟨-, hlt⟩
  rcases h with h | h <;> omega

@[simp] theorem status_json (status : Nat) (v : Json) : (json status v).status = status := rfl

@[simp] theorem status_answer (status : Nat) (message : String) (data : Option Json)
    (paging : Option PageInfo) : (answer status message data paging).status = status := rfl

@[simp] theorem status_failure (status : Nat) (code message : String) (details : Option Json) :
    (failure status code message details).status = status := rfl

/-- No failure is told with the status of a success. -/
theorem le_status_ofError (f : Failure) : 400 ≤ (ofError f).status := by
  cases f <;> simp [ofError]

/-- A failure is never told as a success. -/
theorem not_isSuccess_ofError (f : Failure) : ¬ (ofError f).IsSuccess := by
  rintro ⟨-, hlt⟩
  have hle := le_status_ofError f
  omega

/-- A response tells a refusal only where there was one. -/
theorem isRefusal_of_ofError {f : Failure} (h : (ofError f).IsRefusal) : f.IsRefusal := by
  cases f with
  | validation fields => trivial
  | badRequest cause => trivial
  | _ => simp [IsRefusal, ofError] at h

theorem isSuccess_done (message : String) (data : Json) : (done message data).IsSuccess := by
  simp [IsSuccess, done]

theorem isSuccess_added (data : Json) : (added data).IsSuccess := by
  simp [IsSuccess, added]

theorem isSuccess_page (rows : List Json) (paging : PageInfo) : (page rows paging).IsSuccess := by
  simp [IsSuccess, page]

end Response

/-! ### Requests for rows

What the requests that use transactions are, and what is asked of the server while one is served. -/

/-- Whether an endpoint is about rows, those of one table or those of a query expression. -/
def Endpoint.usesRows : Endpoint → Bool
  | health | version | ready => false
  | _ => true

/-- Whether a request wants the number of all rows beside a page of them. -/
def wantsTotal (r : Request) : Endpoint → Bool
  | .list _ => (parameterListing (Target.read r.target).parameters).withTotal
  | .select _ => (readListing r).toOption.any (·.withTotal)
  | _ => false

/-- Whether the server does as it is told, where it is told to begin or to commit a transaction. -/
def keepsWord : Exchange → Bool
  | ⟨.begin, reply⟩ | ⟨.commit, reply⟩ => Except.isOk reply
  | _ => true

/-- There is one way to do as told. -/
theorem eq_ok_of_isOk {reply : Except DatabaseFailure Unit} (h : reply.isOk = true) :
    reply = .ok () := by
  cases reply with
  | ok u => rfl
  | error f => cases h

/-! ### Exchanges of a transaction

A transaction is one request that begins it, the body, and one that ends it. -/

section

variable {reply : Except DatabaseFailure Unit} {body : List Exchange} {last : Exchange}

/-- The requests that begin and end a transaction are no statements. -/
theorem statementsOf_body (h : last.1.statement? = none) :
    statementsOf (⟨.begin, reply⟩ :: (body ++ [last])) = statementsOf body := by
  have hend : statementsOf [last] = [] := List.filterMap_eq_nil_iff.2 (by simpa using h)
  show statementsOf (body ++ [last]) = _
  rw [statementsOf_append, hend, List.append_nil]

/-- Every exchange is the first, one of the body, or the last. -/
theorem begin_or_mem_or_eq_last {e : Exchange} (h : e ∈ ⟨.begin, reply⟩ :: (body ++ [last])) :
    e.1 = .begin ∨ e ∈ body ∨ e = last := by
  rcases List.mem_cons.1 h with rfl | h
  · exact .inl rfl
  rcases List.mem_append.1 h with h | h
  · exact .inr (.inl h)
  · exact .inr (.inr (List.mem_singleton.1 h))

end

/-! ### Settled requests

A request is settled in one of three ways. What is said of a request can be read off each of them.
-/

/-- The response goes with what became of the transaction, which sent statements of which `P`
holds. -/
inductive Settled (P : List Sql.Statement → Prop) : List Exchange → Response → Prop where
  | unopened {response : Response} (h : ¬ response.IsSuccess) : Settled P [] response
  | committed {es : List Exchange} {response : Response} (hinside : ∀ e ∈ es, e.1.IsInside)
      (hp : P (statementsOf es)) (h : response.IsSuccess) :
      Settled P (⟨.begin, Except.ok ()⟩ :: (es ++ [⟨.commit, Except.ok ()⟩])) response
  | rolledBack {es : List Exchange} {response : Response} (reply : Except DatabaseFailure Unit)
      (hinside : ∀ e ∈ es, e.1.IsInside) (hp : P (statementsOf es)) (h : ¬ response.IsSuccess)
      (hfirst : response.IsRefusal → statementsOf es = []) :
      Settled P (⟨.begin, Except.ok ()⟩ :: (es ++ [⟨.rollback, reply⟩])) response

namespace Settled

variable {P Q : List Sql.Statement → Prop} {es : List Exchange} {response : Response}

/-- What is known of the statements may be weakened. -/
theorem imp (h : Settled P es response) (hpq : ∀ l, P l → Q l) : Settled Q es response := by
  cases h with
  | unopened h => exact .unopened h
  | committed hinside hp h => exact .committed hinside (hpq _ hp) h
  | rolledBack reply hinside hp h hfirst => exact .rolledBack reply hinside (hpq _ hp) h hfirst

/-- Only the status of the response matters. -/
theorem of_status_eq {response' : Response} (h : Settled P es response)
    (hstatus : response'.status = response.status) : Settled P es response' := by
  have hsuccess : response'.IsSuccess ↔ response.IsSuccess := by
    simp only [Response.IsSuccess, hstatus]
  have hrefusal : response'.IsRefusal ↔ response.IsRefusal := by
    simp only [Response.IsRefusal, hstatus]
  cases h with
  | unopened h => exact .unopened (mt hsuccess.1 h)
  | committed hinside hp h => exact .committed hinside hp (hsuccess.2 h)
  | rolledBack reply hinside hp h hfirst =>
    exact .rolledBack reply hinside hp (mt hsuccess.1 h) fun hr => hfirst (hrefusal.1 hr)

/-- `COMMIT` is sent for the successes and for them only. -/
theorem exists_commit_iff (h : Settled P es response) :
    (∃ e ∈ es, e.1 = .commit) ↔ response.IsSuccess := by
  cases h with
  | unopened h => simp [h]
  | committed hinside hp h => simp [h]
  | rolledBack reply hinside hp h hfirst =>
    refine iff_of_false ?_ h
    rintro ⟨e, he, hcommit⟩
    rcases begin_or_mem_or_eq_last he with hbegin | he | rfl
    · cases hcommit.symm.trans hbegin
    · -- no request of the body ends the transaction
      have hin := hinside e he
      rw [hcommit] at hin
      exact hin
    · cases hcommit

/-- For a success all stands between `BEGIN` and `COMMIT`. -/
theorem of_isSuccess (h : Settled P es response) (hs : response.IsSuccess) :
    ∃ middle : List Exchange,
      es = ⟨.begin, Except.ok ()⟩ :: (middle ++ [⟨.commit, Except.ok ()⟩]) ∧
        ∀ e ∈ middle, e.1.IsInside := by
  cases h with
  | unopened h => exact absurd hs h
  | committed hinside hp h => exact ⟨_, rfl, hinside⟩
  | rolledBack reply hinside hp h hfirst => exact absurd hs h

/-- For a failure nothing is sent, or all stands between `BEGIN` and `ROLLBACK`. -/
theorem of_not_isSuccess (h : Settled P es response) (hs : ¬ response.IsSuccess) :
    es = [] ∨ ∃ (middle : List Exchange) (reply : Except DatabaseFailure Unit),
      es = ⟨.begin, Except.ok ()⟩ :: (middle ++ [⟨.rollback, reply⟩]) ∧
        ∀ e ∈ middle, e.1.IsInside := by
  cases h with
  | unopened h => exact .inl rfl
  | committed hinside hp h => exact absurd h hs
  | rolledBack reply hinside hp h hfirst => exact .inr ⟨_, reply, rfl, hinside⟩

/-- A refused request has sent no statement. -/
theorem statementsOf_of_isRefusal (h : Settled P es response) (hr : response.IsRefusal) :
    statementsOf es = [] := by
  cases h with
  | unopened h => rfl
  | committed hinside hp h => exact absurd h (Response.not_isSuccess_of_isRefusal hr)
  | rolledBack reply hinside hp h hfirst =>
    rw [statementsOf_body rfl]
    exact hfirst hr

/-- Besides the transaction itself, a refused request has only read. -/
theorem reads_of_isRefusal (h : Settled P es response) (hr : response.IsRefusal) :
    ∀ e ∈ es, e.1 = .begin ∨ e.1 = .rollback ∨ e.1.IsRead := by
  have hnone : ∀ e ∈ es, e.1.statement? = none :=
    List.filterMap_eq_nil_iff.1 (h.statementsOf_of_isRefusal hr)
  rcases h.of_not_isSuccess (Response.not_isSuccess_of_isRefusal hr) with
    rfl | ⟨middle, reply, rfl, hinside⟩
  · simp
  · intro e he
    have hnot := hnone e he
    rcases begin_or_mem_or_eq_last he with hbegin | he | rfl
    · exact .inl hbegin
    · exact .inr (.inr ((hinside e he).isRead hnot))
    · exact .inr (.inl rfl)

/-- Whether there was a transaction or not, `P` holds of the statements sent. -/
theorem sends (h : Settled P es response) (hnil : P []) : P (statementsOf es) := by
  cases h with
  | unopened h => exact hnil
  | committed hinside hp h =>
    rw [statementsOf_body rfl]
    exact hp
  | rolledBack reply hinside hp h hfirst =>
    rw [statementsOf_body rfl]
    exact hp

end Settled

/-- Where the server keeps its word, the response for the action goes with its exchanges. -/
def Settles (a : Action Response) (P : List Sql.Statement → Prop) : Prop :=
  ∀ ⦃c es x c'⦄, a.Run c es x c' → (∀ e ∈ es, keepsWord e = true) → Settled P es (Service.told x)

/-- Whenever the action gives a value, `Q` holds of it. -/
def Gives {α : Type} (a : Action α) (Q : α → Prop) : Prop :=
  ∀ ⦃c es v c'⦄, a.Run c es (.ok v) c' → Q v

section

variable {α β : Type} {P : List Sql.Statement → Prop}

/-- A value that is given at once. -/
theorem gives_pure {Q : α → Prop} {v : α} (h : Q v) : Gives (pure v) Q := by
  intro c es w c' hrun
  obtain ⟨-, hw, -⟩ := run_pure_iff.1 hrun
  cases hw
  exact h

/-- Only the last of two actions decides what is given. -/
theorem gives_bind {Q : β → Prop} {a : Action α} {f : α → Action β} (hf : ∀ v, Gives (f v) Q) :
    Gives (a >>= f) Q := by
  intro c es w c' hrun
  rcases run_bind_iff.1 hrun with ⟨e, he, -⟩ | ⟨es₁, es₂, v, c₁, -, -, h⟩
  · cases he
  · exact hf v h

/-- A transaction is settled whose body is refused, if at all, before it sends a statement, and
otherwise ends in a success. -/
theorem settles_transaction {body : Action Response} (hbody : body.RefusesFirst P)
    (hgives : Gives body Response.IsSuccess) : Settles (transaction body) P := by
  intro c es x c' hrun hword
  -- the transaction does not begin, is committed, or is rolled back
  rcases transaction_cases hrun with
    ⟨f, rfl, rfl, -⟩ | ⟨es₁, response, reply, rfl, h, rfl⟩ | ⟨es₁, e, reply, rfl, h, rfl⟩
  · -- the server keeps its word, so the transaction does begin
    have hbegin : (Except.error f : Except DatabaseFailure Unit) = .ok () :=
      eq_ok_of_isOk (hword _ List.mem_cons_self)
    cases hbegin
  · obtain rfl : reply = .ok () := eq_ok_of_isOk (hword ⟨.commit, reply⟩ (by simp))
    obtain ⟨hinside, hp, -⟩ := hbody h
    exact .committed hinside hp (hgives h)
  · obtain ⟨hinside, hp, hfirst⟩ := hbody h
    refine .rolledBack reply hinside hp (Response.not_isSuccess_ofError e) fun hrefusal => ?_
    exact hfirst e rfl (Response.isRefusal_of_ofError hrefusal)

/-- A failure that is answered at once leaves nothing to settle. -/
theorem settles_pure {response : Response} (h : ¬ response.IsSuccess) :
    Settles (pure response) P := by
  intro c es x c' hrun _
  obtain ⟨rfl, rfl, -⟩ := run_pure_iff.1 hrun
  exact .unopened h

/-- A part of the request that cannot be read is answered before anything else. -/
theorem settles_ofExcept_bind {y : Except Failure α} {f : α → Action Response}
    (hf : ∀ v, y = .ok v → Settles (f v) P) : Settles (Action.ofExcept y >>= f) P := by
  intro c es x c' hrun hword
  rcases run_ofExcept_bind_iff.1 hrun with ⟨e, -, rfl, rfl, -⟩ | ⟨v, hv, h⟩
  · exact .unopened (Response.not_isSuccess_ofError e)
  · exact hf v hv h hword

end

namespace Service

variable {s : Service} {r : Request} {c c' : TableCache} {es : List Exchange}
variable {P : List Sql.Statement → Prop}

/-! ### Reading the header and the path

What cannot be read is answered at once. So nothing was sent when one of these steps fails. -/

theorem settles_withTenant {go : Tenant → Action Response} (h : ∀ tenant, Settles (go tenant) P) :
    Settles (withTenant r go) P :=
  settles_ofExcept_bind fun tenant _ => h tenant

/-- A part of the path that cannot be read is told as a bad request. -/
theorem not_isSuccess_of_readPart {name part : String} {response : Response}
    (h : readPart name part = .error response) : ¬ response.IsSuccess := by
  unfold readPart at h
  split at h
  · cases h
  · cases h
    simp [Response.IsSuccess, Response.plain]

/-- A path whose table cannot be read is answered before anything is sent. -/
theorem settles_withTable {part : String} {go : String → Action Response}
    (h : ∀ table, Settles (go table) P) : Settles (withTable part go) P := by
  unfold withTable
  split
  · next table _ => exact h table
  · next response hresponse => exact settles_pure (not_isSuccess_of_readPart hresponse)

/-- A path whose table or key cannot be read is answered before anything is sent. -/
theorem settles_withRow {part key : String} {go : String → String → Action Response}
    (h : ∀ table k, Settles (go table k) P) : Settles (withRow part key go) P := by
  refine settles_withTable fun table => ?_
  split
  · next k _ => exact h table k
  · next response hresponse => exact settles_pure (not_isSuccess_of_readPart hresponse)

/-! ### Transactions on rows

Every operation on rows first reads the catalog, then checks what it was given, and sends its
statement last. It is refused, if it is, before it sends anything; once the statement is out, only
the server can fail. -/

/-- After entering a table nothing has been sent yet. -/
theorem refusesFirst_enter_bind {α : Type} {g : Gate} {raw : String} {tenant : Tenant}
    {f : TenantTable → Action α} (hf : ∀ t, (f t).RefusesFirst P) (hnil : P []) :
    (g.enter raw tenant >>= f).RefusesFirst P :=
  RefusesFirst.after_reads (g.asks_enter raw tenant) hf hnil

/-- For a record only the clock is read. -/
theorem reads_record (s : Service) (t : TenantTable) (mode : WriteMode)
    (payload : List (String × Json)) : (s.record t mode payload).Asks Request.IsRead :=
  (asks_ask (P := Request.IsRead) (by trivial)).bind fun _ => asks_ofExcept _

/-- What the operations on one row have in common: a page, with or without its total, may send as
much. -/
theorem refusesFirst_single {α : Type} {a : Action α} {g : α → Response} {withTotal : Bool}
    (h : ∃ st, a.Executes (· = [st])) :
    (a >>= fun v => pure (g v)).RefusesFirst (TenantTable.IsPaged withTotal) := by
  obtain ⟨st, hst⟩ := h
  refine (hst.refusesFirst.imp ?_).map
  rintro l rfl
  exact .inl (Nat.le_refl 1)

variable {tenant : Tenant} {table key : String} {withTotal : Bool}

/-- To send nothing is within what any operation may send. -/
theorem isPaged_nil : TenantTable.IsPaged withTotal [] := .inl (Nat.zero_le 1)

/-- An operation on a row that is there reads its key after it entered the table. -/
theorem refusesFirst_keyed_bind {g : Gate} {raw : String}
    {f : TenantTable → Sql.Value → Action Response}
    (hf : ∀ t key, (f t key).RefusesFirst (TenantTable.IsPaged withTotal)) :
    (g.enter raw tenant >>= fun t => Action.ofExcept (t.table.readKey key) >>= f t).RefusesFirst
      (TenantTable.IsPaged withTotal) :=
  refusesFirst_enter_bind
    (fun t => RefusesFirst.after_reads (asks_ofExcept _) (hf t) isPaged_nil) isPaged_nil

/-- An insertion is one statement. -/
theorem settles_create : Settles (s.create tenant table r) (TenantTable.IsPaged withTotal) := by
  refine settles_ofExcept_bind fun payload _ => settles_transaction ?_ ?_
  · refine refusesFirst_enter_bind (fun t => ?_) isPaged_nil
    refine RefusesFirst.after_reads (s.reads_record t .insert payload) (fun record => ?_)
      isPaged_nil
    exact refusesFirst_single (t.executes_insert record)
  · exact gives_bind fun t => gives_bind fun record => gives_bind fun key =>
      gives_pure (Response.isSuccess_added _)

/-- A page is one statement, or two if its total is wanted. -/
theorem settles_page (p : Listing) (size : Int64) :
    Settles (s.page tenant table p size) (TenantTable.IsPaged p.withTotal) := by
  refine settles_transaction ?_ ?_
  · exact refusesFirst_enter_bind (fun t => (t.refusesFirst_page p size).map) isPaged_nil
  · exact gives_bind fun t => gives_bind fun page => gives_pure (Response.isSuccess_page _ _)

theorem settles_read : Settles (s.read tenant table key) (TenantTable.IsPaged withTotal) := by
  refine settles_transaction ?_ ?_
  · exact refusesFirst_keyed_bind fun t key => refusesFirst_single (t.executes_find key)
  · exact gives_bind fun t => gives_bind fun key => gives_bind fun row =>
      gives_pure (Response.isSuccess_done _ _)

theorem settles_update : Settles (s.update tenant table key r) (TenantTable.IsPaged withTotal) := by
  refine settles_ofExcept_bind fun payload _ => settles_transaction ?_ ?_
  · refine refusesFirst_keyed_bind fun t key => ?_
    refine RefusesFirst.after_reads (s.reads_record t .update payload) (fun record => ?_)
      isPaged_nil
    exact refusesFirst_single (t.executes_update key record)
  · exact gives_bind fun t => gives_bind fun key => gives_bind fun record => gives_bind fun _ =>
      gives_pure (Response.isSuccess_done _ _)

theorem settles_delete : Settles (s.delete tenant table key) (TenantTable.IsPaged withTotal) := by
  refine settles_transaction ?_ ?_
  · exact refusesFirst_keyed_bind fun t key => refusesFirst_single (t.executes_delete key)
  · exact gives_bind fun t => gives_bind fun key => gives_bind fun _ =>
      gives_pure (Response.isSuccess_done _ _)

/-- A query expression is answered with one statement. -/
theorem settles_query : Settles (s.query tenant r) (TenantTable.IsPaged withTotal) := by
  refine settles_ofExcept_bind fun text _ => settles_transaction ?_ ?_
  · have hanswer := s.queryGate.refusesFirst_answer s.settings.queryLimit tenant text
    exact (hanswer.imp fun l hl => .inl hl).map
  · exact gives_bind fun rows => gives_pure (Response.isSuccess_done _ _)

/-! ### Answers

Every endpoint on rows is one of the transactions above, after the header and the path. -/

/-- Every endpoint on rows settles its request, and only the pages send more than one statement. -/
theorem settles_run {e : Endpoint} (he : e.usesRows = true) :
    Settles (s.run r e) (TenantTable.IsPaged (wantsTotal r e)) := by
  cases e with
  | health => cases he
  | version => cases he
  | ready => cases he
  | query => exact settles_withTenant fun tenant => settles_query
  | create t => exact settles_withTenant fun tenant => settles_withTable fun table => settles_create
  | list t =>
    exact settles_withTenant fun tenant => settles_withTable fun table => settles_page _ _
  | select t =>
    refine settles_withTenant fun tenant => settles_withTable fun table => ?_
    refine settles_ofExcept_bind fun p hp => ?_
    -- the page request that was read is the one that says whether the total is wanted
    have htotal : wantsTotal r (.select t) = p.withTotal := by
      simp [wantsTotal, hp, Except.toOption]
    rw [htotal]
    exact settles_page p _
  | read t k => exact settles_withTenant fun tenant => settles_withRow fun table key => settles_read
  | update t k =>
    exact settles_withTenant fun tenant => settles_withRow fun table key => settles_update
  | delete t k =>
    exact settles_withTenant fun tenant => settles_withRow fun table key => settles_delete

/-- What a request may send: at most one statement, or, where it wants a page with its total, the
count and then the page. -/
def MaySend (r : Request) (l : List Sql.Statement) : Prop :=
  l.length ≤ 1 ∨ ∃ e, endpointOf? r = some e ∧ wantsTotal r e = true ∧
    ∃ table f q, l = [.count table f, .select q]

/-- Whatever is asked of the rows, the request is settled. -/
theorem settled_serve {response : Response}
    (hrows : ∀ e, endpointOf? r = some e → e.usesRows = true)
    (hrun : Program.Run (s.serve r c) es (response, c'))
    (hword : ∀ e ∈ es, keepsWord e = true) : Settled (MaySend r) es response := by
  rcases run_serve_cases hrun with ⟨rfl, -, hstatus⟩ | ⟨e, x, he, h, hstatus⟩
  · -- answered without an endpoint
    refine .unopened ?_
    rintro ⟨-, hlt⟩
    simp only [List.mem_cons, List.not_mem_nil, or_false] at hstatus
    omega
  · refine ((settles_run (hrows e he) h hword).imp ?_).of_status_eq hstatus
    rintro l (hone | ⟨htotal, hpage⟩)
    · exact .inl hone
    · exact .inr ⟨e, he, htotal, hpage⟩

/-- A request for rows is atomic, as long as the server begins and commits transactions when it is
told to, and whatever else it replies. `COMMIT` is sent just where the response is a success; it is
then the last that is sent, and all the rest stands between `BEGIN` and it. For a failure nothing is
sent, or all stands between `BEGIN` and `ROLLBACK`. A request that is refused has only read the
catalog, and any request sends at most one statement, or, for a page with its total, the count and
then the page. -/
theorem serve_atomic {response : Response}
    (hrows : ∀ e, endpointOf? r = some e → e.usesRows = true)
    (hrun : Program.Run (s.serve r c) es (response, c'))
    (hword : ∀ e ∈ es, keepsWord e = true) :
    ((∃ e ∈ es, e.1 = .commit) ↔ response.IsSuccess) ∧
    (response.IsSuccess → ∃ middle : List Exchange,
      es = ⟨.begin, Except.ok ()⟩ :: (middle ++ [⟨.commit, Except.ok ()⟩]) ∧
        ∀ e ∈ middle, e.1.IsInside) ∧
    (¬ response.IsSuccess → es = [] ∨
      ∃ (middle : List Exchange) (reply : Except DatabaseFailure Unit),
        es = ⟨.begin, Except.ok ()⟩ :: (middle ++ [⟨.rollback, reply⟩]) ∧
          ∀ e ∈ middle, e.1.IsInside) ∧
    (response.IsRefusal → statementsOf es = [] ∧
      ∀ e ∈ es, e.1 = .begin ∨ e.1 = .rollback ∨ e.1.IsRead) ∧
    ((statementsOf es).length ≤ 1 ∨ ∃ e, endpointOf? r = some e ∧ wantsTotal r e = true ∧
      ∃ table f q, statementsOf es = [.count table f, .select q]) := by
  have h := settled_serve hrows hrun hword
  refine ⟨h.exists_commit_iff, h.of_isSuccess, h.of_not_isSuccess, fun hr => ?_, ?_⟩
  · exact ⟨h.statementsOf_of_isRefusal hr, h.reads_of_isRefusal hr⟩
  · exact h.sends (.inl (Nat.zero_le 1))

/-- A list with its total is a success: the table is looked up, its rows are counted and read, and
then the transaction is committed. -/
theorem serve_atomic_list :
    let settings : Settings :=
      { databaseUrl := none, httpAddress := Settings.defaultAddress, databaseSchema := "public"
        schemaDirectory := none, cacheLifetime := 300, tenants := .default, rowDenials := {}
        queryDenials := {}, queryLimit := 200 }
    let r : Request :=
      { method := "GET", target := "/crud/notes?with_total=1", headers := [("x-tenant-id", "42")] }
    let script : Script :=
      { catalog := fun _ _ => .ok
          (["id", "company_id"].map fun name => ⟨some name, some "bigint", none, none⟩, some "id")
        replies := [.ok { rows := [[("total", .int .eight 0)]] }] }
    let played := (serve ⟨settings, fun _ => none⟩ r settings.newCache).play
      (fun q s => s.reply q) script
    let es := played.2.1
    endpointOf? r = some (.list "notes") ∧ wantsTotal r (.list "notes") = true ∧
      (∀ e ∈ es, keepsWord e = true) ∧ played.1.1.IsSuccess ∧
      (∃ e ∈ es, e.1 = .commit) ∧
      ∃ table f q, statementsOf es = [.count table f, .select q] := by
  intro settings r script played es
  have he : endpointOf? r = some (.list "notes") := by decide +kernel
  have hword : ∀ e ∈ es, keepsWord e = true := by decide +kernel
  have htotal : wantsTotal r (.list "notes") = true := by decide +kernel
  have hstatus : played.1.1.status = 200 := by decide +kernel
  have htwo : (statementsOf es).length = 2 := by decide +kernel
  have hrows : ∀ e, endpointOf? r = some e → e.usesRows = true := by
    intro e h
    rw [he] at h
    cases h
    rfl
  have hsuccess : played.1.1.IsSuccess := by
    simp [Response.IsSuccess, hstatus]
  have hrun : Program.Run (serve ⟨settings, fun _ => none⟩ r settings.newCache) es played.1 :=
    Program.play_run (fun q (s : Script) => s.reply q) _ script
  clear_value played
  obtain ⟨hcommit, -, -, -, hsent⟩ := serve_atomic hrows hrun hword
  refine ⟨he, htotal, hword, hsuccess, hcommit.2 hsuccess, ?_⟩
  rcases hsent with hone | ⟨-, -, -, hpage⟩
  · omega
  · exact hpage

end Service
end TenantGate.Http
