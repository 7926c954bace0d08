import TenantGate.Proofs.Table.Access
/-!
# What operations send

An operation on rows is refused, if at all, before it sends a statement: whatever it is asked for is
looked at first, with nothing but reads of the catalog (`RefusesFirst`), and once a statement has
been sent, it fails only in ways that say nothing against the request (`Executes`). No operation
sends more than one statement but the page with its total, which counts first (`IsPaged`).
-/

namespace TenantGate

open Server TenantGate.Action

/-- A failure that says that a request asks for what it may not. -/
def Failure.IsRefusal : Failure → Prop
  | .validation _ | .badRequest _ => True
  | _ => False

/-- A request that neither begins nor ends a transaction. -/
def Server.Request.IsInside : Request → Prop
  | .begin | .commit | .rollback => False
  | _ => True

/-- A read is no end of a transaction. -/
theorem Server.Request.IsRead.isInside {q : Request} (h : q.IsRead) : q.IsInside := by
  cases q with
  | begin => exact h.elim
  | commit => exact h.elim
  | rollback => exact h.elim
  | _ => trivial

/-- Inside a transaction, what sends no statement is a read. -/
theorem Server.Request.IsInside.isRead {q : Request} (h : q.IsInside)
    (hnone : q.statement? = none) : q.IsRead := by
  cases q with
  | begin => exact h
  | commit => exact h
  | rollback => exact h
  | execute st => cases hnone
  | _ => trivial

namespace Action

variable {α β : Type} {x : Action α} {f : α → Action β} {P Q R : List Sql.Statement → Prop}

/-! ### Statements and refusals

`Executes` is for what comes once a statement is out: it may fail, but only as the server or the
stored data have it. `RefusesFirst` is for a whole operation: where it is refused, nothing was sent.
The first gives the second, and reads may be put before it. -/

/-- The action stays inside a transaction, sends statements of which `P` holds, and is not refused.
-/
def Executes (x : Action α) (P : List Sql.Statement → Prop) : Prop :=
  ∀ ⦃c es r c'⦄, x.Run c es r c' →
    (∀ e ∈ es, e.1.IsInside) ∧ P (statementsOf es) ∧ ∀ f, r = .error f → ¬ f.IsRefusal

/-- The action stays inside a transaction, sends statements of which `P` holds, and none if it is
refused. -/
def RefusesFirst (x : Action α) (P : List Sql.Statement → Prop) : Prop :=
  ∀ ⦃c es r c'⦄, x.Run c es r c' →
    (∀ e ∈ es, e.1.IsInside) ∧ P (statementsOf es) ∧
      ∀ f, r = .error f → f.IsRefusal → statementsOf es = []

/-- A value is given without a statement. -/
theorem executes_pure (a : α) : (pure a : Action α).Executes (· = []) := by
  intro c es r c' h
  obtain ⟨rfl, rfl, -⟩ := run_pure_iff.1 h
  refine ⟨by simp, rfl, ?_⟩
  rintro f ⟨⟩

/-- A failure that is no refusal may come at any time. -/
theorem executes_throw {e : Failure} (he : ¬ e.IsRefusal) :
    (throw e : Action α).Executes (· = []) := by
  intro c es r c' h
  obtain ⟨rfl, rfl, -⟩ := run_throw_iff.1 h
  refine ⟨by simp, rfl, ?_⟩
  rintro f ⟨⟩
  exact he

/-- So may an outcome whose failures are none. -/
theorem executes_ofExcept {y : Except Failure α} (hy : ∀ e, y = .error e → ¬ e.IsRefusal) :
    (ofExcept y).Executes (· = []) := by
  cases y with
  | ok a => exact executes_pure a
  | error e => exact executes_throw (hy e rfl)

/-- What the server says of itself is no refusal. -/
theorem executes_ofReply (reply : Except DatabaseFailure α) :
    (ofReply reply).Executes (· = []) := by
  cases reply with
  | ok a => exact executes_pure a
  | error e => exact executes_throw id

/-- What two actions in a row send is what the first sends, if it fails, and otherwise that and then
what the second sends. -/
theorem Executes.bind (hx : x.Executes P) (hf : ∀ a, (f a).Executes Q) (hfirst : ∀ l, P l → R l)
    (hboth : ∀ l m, P l → Q m → R (l ++ m)) : (x >>= f).Executes R := by
  intro c es r c' hrun
  rcases run_bind_iff.1 hrun with ⟨e, rfl, h⟩ | ⟨es₁, es₂, a, c₁, rfl, h₁, h₂⟩
  · obtain ⟨hinside, hp, hr⟩ := hx h
    refine ⟨hinside, hfirst _ hp, ?_⟩
    rintro f ⟨⟩
    exact hr e rfl
  · obtain ⟨hinside₁, hp, -⟩ := hx h₁
    obtain ⟨hinside₂, hq, hr⟩ := hf a h₂
    rw [statementsOf_append]
    exact ⟨List.forall_mem_append.2 ⟨hinside₁, hinside₂⟩, hboth _ _ hp hq, hr⟩

/-- A statement is sent, and only the database can fail it. -/
theorem executes_execute (st : Sql.Statement) : (execute st).Executes (· = [st]) := by
  intro c es r c' hrun
  obtain ⟨reply, es', rfl, h⟩ := run_ask_bind_iff.1 hrun
  obtain ⟨hinside, hnone, hr⟩ := executes_ofReply reply h
  refine ⟨List.forall_mem_cons.2 ⟨trivial, hinside⟩, ?_, hr⟩
  show st :: statementsOf es' = [st]
  rw [hnone]

/-- One statement is sent where nothing is sent after it. -/
theorem executes_one {st : Sql.Statement} {f : Result → Action α}
    (hf : ∀ result, (f result).Executes (· = [])) : (execute st >>= f).Executes (· = [st]) := by
  refine (executes_execute st).bind hf (fun l h => h) ?_
  rintro l m rfl rfl
  rfl

/-- What is not refused at all is refused first. -/
theorem Executes.refusesFirst (hx : x.Executes P) : x.RefusesFirst P := by
  intro c es r c' h
  obtain ⟨hinside, hp, hr⟩ := hx h
  exact ⟨hinside, hp, fun f hf hrefusal => absurd hrefusal (hr f hf)⟩

/-- What is known of the statements may be weakened. -/
theorem RefusesFirst.imp (hx : x.RefusesFirst P) (h : ∀ l, P l → Q l) : x.RefusesFirst Q := by
  intro c es r c' hrun
  obtain ⟨hinside, hp, hr⟩ := hx hrun
  exact ⟨hinside, h _ hp, hr⟩

/-- Reads before the first statement do no harm, whether they are refused or not. -/
theorem RefusesFirst.after_reads (hx : x.Asks Request.IsRead) (hf : ∀ a, (f a).RefusesFirst P)
    (hnil : P []) : (x >>= f).RefusesFirst P := by
  intro c es r c' h
  rcases run_bind_iff.1 h with ⟨e, -, h⟩ | ⟨es₁, es₂, a, c₁, rfl, h₁, h₂⟩
  · -- the reads fail, and whatever the failure is, nothing has been sent
    have hnone := statementsOf_of_reads hx h
    rw [hnone]
    exact ⟨fun e he => (hx h e he).isInside, hnil, fun _ _ _ => rfl⟩
  · obtain ⟨hinside, hp, hr⟩ := hf a h₂
    rw [statementsOf_append, statementsOf_of_reads hx h₁, List.nil_append]
    exact ⟨List.forall_mem_append.2 ⟨fun e he => (hx h₁ e he).isInside, hinside⟩, hp, hr⟩

/-- What is made of a result does not matter. -/
theorem RefusesFirst.map {g : α → β} (hx : x.RefusesFirst P) :
    (x >>= fun a => pure (g a)).RefusesFirst P := by
  intro c es r c' hrun
  rcases run_bind_iff.1 hrun with ⟨e, rfl, h⟩ | ⟨es₁, es₂, a, c₁, rfl, h₁, h₂⟩
  · obtain ⟨hinside, hp, hr⟩ := hx h
    refine ⟨hinside, hp, ?_⟩
    rintro f ⟨⟩
    exact hr e rfl
  · obtain ⟨rfl, rfl, -⟩ := run_pure_iff.1 h₂
    obtain ⟨hinside, hp, -⟩ := hx h₁
    rw [List.append_nil]
    refine ⟨hinside, hp, ?_⟩
    rintro f ⟨⟩

/-! ### Failures that are caught

Looking a table up may fail without an end to the action; what is asked in that case is asked
besides. -/

/-- What is made of a value asks nothing. -/
theorem asks_map {P : Request → Prop} {g : α → β} (hx : x.Asks P) : (g <$> x).Asks P := by
  rw [map_eq_pure_bind]
  exact hx.bind fun a => asks_pure _

/-- Both the action and what is done for its failure have to keep to the bound. -/
theorem asks_tryCatch {P : Request → Prop} {handle : Failure → Action α} (hx : x.Asks P)
    (hhandle : ∀ e, (handle e).Asks P) : (tryCatch x handle).Asks P := by
  intro c es r c' h
  rcases run_tryCatch_cases h with ⟨a, -, h⟩ | ⟨es₁, es₂, e, c₁, rfl, h₁, h₂⟩
  · exact hx h
  · exact List.forall_mem_append.2 ⟨hx h₁, hhandle e h₂⟩

end Action

/-! ### Operations within a scope

One statement for each operation on a row. A row that is missing is a failure but no refusal, as it
takes a statement to find out. -/

namespace TenantTable

variable (t : TenantTable)

/-- A missing row is no reason to refuse the request. -/
theorem not_isRefusal_missing (key : Sql.Value) : ¬ (t.missing key).IsRefusal := id

/-- A new row is one statement. -/
theorem executes_insert (r : Record) : ∃ st, (t.insert r).Executes (· = [st]) := by
  refine ⟨_, executes_one fun result => ?_⟩
  split
  · exact executes_pure _
  · exact executes_throw id

theorem executes_find (key : Sql.Value) : ∃ st, (t.find key).Executes (· = [st]) := by
  refine ⟨_, executes_one fun result => ?_⟩
  split
  · exact executes_pure _
  · exact executes_throw (t.not_isRefusal_missing key)

theorem executes_update (key : Sql.Value) (r : Record) :
    ∃ st, (t.update key r).Executes (· = [st]) := by
  refine ⟨_, executes_one fun result => ?_⟩
  split
  · exact executes_throw (t.not_isRefusal_missing key)
  · exact executes_pure _

theorem executes_delete (key : Sql.Value) : ∃ st, (t.delete key).Executes (· = [st]) := by
  refine ⟨_, executes_one fun result => ?_⟩
  split
  · exact executes_throw (t.not_isRefusal_missing key)
  · exact executes_pure _

/-- At most one statement, or, with the total, the count and then the page. -/
def IsPaged (withTotal : Bool) (l : List Sql.Statement) : Prop :=
  l.length ≤ 1 ∨ withTotal = true ∧ ∃ table f q, l = [.count table f, .select q]

/-- A count that is none is the fault of the server. -/
theorem not_isRefusal_readTotal {result : Result} {e : Failure}
    (h : readTotal result = .error e) : ¬ e.IsRefusal := by
  unfold readTotal at h
  split at h
  · cases h
    exact id
  · split at h
    · cases h
    · cases h
      exact id

/-- A number of pages that cannot be told is no reason to refuse the request. -/
theorem not_isRefusal_describe {w : Window} {hasMore : Bool} {total : Option Int64} {e : Failure}
    (h : describe w hasMore total = .error e) : ¬ e.IsRefusal := by
  unfold describe at h
  split at h
  · cases h
  · cases h
    exact id

/-- What comes after the rows of a page sends nothing more. -/
theorem executes_describe (rows : List Json) (w : Window) (hasMore : Bool) (total : Option Int64) :
    (do let paging ← Action.ofExcept (describe w hasMore total); return (rows, paging) :
      Action (List Json × PageInfo)).Executes (· = []) := by
  refine (executes_ofExcept fun e => not_isRefusal_describe).bind
    (fun paging => executes_pure _) (fun l h => h) ?_
  rintro l m rfl rfl
  rfl

/-- The page request is looked at as a whole before anything is counted. -/
theorem refusesFirst_page (r : Listing) (defaultSize : Int64) :
    (t.page r defaultSize).RefusesFirst (IsPaged r.withTotal) := by
  -- Making the statements of the page is pure; what is refused is refused there.
  refine RefusesFirst.after_reads (asks_ofExcept _) (fun s => ?_) (.inl (Nat.zero_le 1))
  dsimp only
  split
  · next htotal =>
    refine Executes.refusesFirst ((executes_execute s.total).bind
      (Q := fun l => l = [] ∨ l = [s.page]) (fun result => ?_) ?_ ?_)
    · -- the count may not be one, and is then no reason to refuse the request
      have hread : (some <$> Action.ofExcept (readTotal result) : Action (Option Int64)).Executes
          (· = []) := by
        cases hread : readTotal result with
        | ok n => exact executes_pure (some n)
        | error e => exact executes_throw (not_isRefusal_readTotal hread)
      refine hread.bind (fun total => executes_one fun result => executes_describe _ _ _ _) ?_ ?_
      · exact fun l hl => .inl hl
      · rintro l m rfl rfl
        exact .inr rfl
    · rintro l rfl
      exact .inl (Nat.le_refl 1)
    · rintro l m rfl hm
      rcases hm with rfl | rfl
      · exact .inl (Nat.le_refl 1)
      · exact .inr ⟨htotal, _, _, _, rfl⟩
  · refine Executes.refusesFirst ((executes_pure none).bind
      (fun total => executes_one fun result => executes_describe _ _ _ _) ?_ ?_)
    · rintro l rfl
      exact .inl (Nat.zero_le 1)
    · rintro l m rfl rfl
      exact .inl (Nat.le_refl 1)

end TenantTable

/-! ### Query expressions

A query expression is read, gated and planned before its one statement; only its tables are looked
up in between. -/

namespace Gate

variable (g : Gate)

/-- What looks the tables of an expression up names them. -/
theorem asks_lookup_findTables (found : Dict Table) (names : List String) :
    (g.findTables found names).Asks fun q => ∃ raw ∈ names, g.source.IsLookupOf raw q := by
  -- The induction is on the names; a name that was found before is not looked up again.
  induction names generalizing found with
  | nil => exact asks_pure _
  | cons name names ih =>
    have hrest : ∀ found, (g.findTables found names).Asks fun q =>
        ∃ raw ∈ name :: names, g.source.IsLookupOf raw q := fun found =>
      (ih found).imp fun q ⟨raw, hraw, hq⟩ => ⟨raw, List.mem_cons_of_mem _ hraw, hq⟩
    rw [findTables]
    split
    · exact hrest found
    · have hfind := (asks_map (g := some) (g.source.asks_lookup_findReadable name)).imp
        (Q := fun q => ∃ raw ∈ name :: names, g.source.IsLookupOf raw q)
        fun q hq => ⟨name, List.mem_cons_self, hq⟩
      refine (asks_tryCatch hfind fun failure => ?_).bind fun table? => ?_
      · split
        · exact asks_pure _
        · exact asks_throw _
      · split
        · exact hrest _
        · exact hrest _

/-- To find the tables of an expression, the catalog is read and no statement is sent. -/
theorem asks_findTables (found : Dict Table) (names : List String) :
    (g.findTables found names).Asks Request.IsRead :=
  (g.asks_lookup_findTables found names).imp fun _ ⟨_, _, _, _, hq⟩ => hq.isRead

/-- A query expression is planned as a whole before its statement is sent. -/
theorem refusesFirst_answer (greatestLimit : Int64) (tenant : Tenant) (text : String) :
    (g.answer greatestLimit tenant text).RefusesFirst fun l => l.length ≤ 1 := by
  have hnil : ([] : List Sql.Statement).length ≤ 1 := Nat.zero_le 1
  -- what comes after the deny list: the tables, the plan, and the statement
  have hplanned : ∀ e : Query.Expression, (do
      let tables ← g.findTables .empty e.tables
      let q ← Action.ofExcept (Query.plan e tenant tables g.tenants)
      let result ← execute (.select q)
      return result.rows.map Row.toJson : Action (List Json)).RefusesFirst
        fun l => l.length ≤ 1 := by
    intro e
    refine RefusesFirst.after_reads (g.asks_findTables _ _) (fun tables => ?_) hnil
    refine RefusesFirst.after_reads (asks_ofExcept _) (fun q => ?_) hnil
    refine (executes_one fun result => executes_pure _).refusesFirst.imp ?_
    rintro l rfl
    exact Nat.le_refl 1
  refine RefusesFirst.after_reads (asks_ofExcept _) (fun e => ?_) hnil
  dsimp only
  split
  · exact RefusesFirst.after_reads (asks_throw _) (fun _ => hplanned _) hnil
  · exact hplanned _

end Gate
end TenantGate
