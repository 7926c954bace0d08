import TenantGate.Http.Service
import TenantGate.Proofs.Server.Run
/-!
# Runs of a transaction

`transaction_cases` lists the three ways in which a transaction can go: it does not begin, its body
goes well and is followed by `COMMIT`, or its body fails and is followed by `ROLLBACK`. Nothing else
is exchanged.
-/

namespace TenantGate.Http

open Server TenantGate.Action

variable {α : Type} {c c' : TableCache} {es : List Exchange} {r : Except Failure α}

/-- The end of a transaction whose body went well. -/
theorem run_commit {a : α}
    (hrun : Action.Run (do Action.ofReply (← Action.ask .commit); return a) c es r c') :
    ∃ reply : Except DatabaseFailure Unit, es = [⟨.commit, reply⟩] ∧
      r = (reply.mapError .database).map (fun _ => a) ∧ c' = c := by
  obtain ⟨reply, es', rfl, h⟩ := run_ask_bind_iff.1 hrun
  refine ⟨reply, ?_⟩
  rcases run_ofReply_bind_iff.1 h with ⟨f, rfl, rfl, rfl, rfl⟩ | ⟨u, rfl, h⟩
  · exact ⟨rfl, rfl, rfl⟩
  · obtain ⟨rfl, rfl, rfl⟩ := run_pure_iff.1 h
    exact ⟨rfl, rfl, rfl⟩

/-- The end of a transaction whose body failed: the failure stays what it was, whatever the reply to
the rollback. -/
theorem run_rollback {e : Failure}
    (hrun : Action.Run (do let _ ← Action.ask .rollback; throw e) c es r c') :
    ∃ reply : Except DatabaseFailure Unit, es = [⟨.rollback, reply⟩] ∧ r = .error e ∧ c' = c := by
  obtain ⟨reply, es', rfl, h⟩ := run_ask_bind_iff.1 hrun
  obtain ⟨rfl, rfl, rfl⟩ := run_throw_iff.1 h
  exact ⟨reply, rfl, rfl, rfl⟩

/-- A transaction does not begin, or its body runs between `BEGIN` and the one request that ends
it. -/
theorem transaction_cases {body : Action α} (hrun : (transaction body).Run c es r c') :
    (∃ f : DatabaseFailure, es = [⟨.begin, Except.error f⟩] ∧ r = .error (.database f) ∧ c' = c) ∨
    (∃ es₁ a, ∃ reply : Except DatabaseFailure Unit,
      es = ⟨.begin, Except.ok ()⟩ :: (es₁ ++ [⟨.commit, reply⟩]) ∧ body.Run c es₁ (.ok a) c' ∧
        r = (reply.mapError .database).map (fun _ => a)) ∨
    (∃ es₁ e, ∃ reply : Except DatabaseFailure Unit,
      es = ⟨.begin, Except.ok ()⟩ :: (es₁ ++ [⟨.rollback, reply⟩]) ∧ body.Run c es₁ (.error e) c' ∧
        r = .error e) := by
  obtain ⟨reply, es', rfl, h⟩ := run_ask_bind_iff.1 hrun
  -- the first exchange is `BEGIN`, and a failure of it ends everything
  rcases run_ofReply_bind_iff.1 h with ⟨f, rfl, rfl, rfl, rfl⟩ | ⟨u, rfl, h⟩
  · exact .inl ⟨f, rfl, rfl, rfl⟩
  · obtain ⟨es₁, es₂, result, c₁, rfl, hbody, hend⟩ := run_lift_bind_iff.1 h
    cases result with
    | ok a =>
      obtain ⟨reply, rfl, hr, rfl⟩ := run_commit hend
      exact .inr (.inl ⟨es₁, a, reply, rfl, hbody, hr⟩)
    | error e =>
      obtain ⟨reply, rfl, hr, rfl⟩ := run_rollback hend
      exact .inr (.inr ⟨es₁, e, reply, rfl, hbody, hr⟩)

/-- A transaction sends the statements of its body. -/
theorem exists_run_of_transaction {body : Action α} (h : (transaction body).Run c es r c') :
    statementsOf es = [] ∨
      ∃ es₁ r₁ before after, es = before ++ es₁ ++ after ∧ body.Run c es₁ r₁ c' ∧
        statementsOf es = statementsOf es₁ := by
  rcases transaction_cases h with
    ⟨f, rfl, -, -⟩ | ⟨es₁, a, reply, rfl, h, -⟩ | ⟨es₁, e, reply, rfl, h, -⟩
  · exact .inl rfl
  · refine .inr ⟨es₁, _, [⟨.begin, Except.ok ()⟩], [⟨.commit, reply⟩], by simp, h, ?_⟩
    exact (statementsOf_append es₁ _).trans (List.append_nil _)
  · refine .inr ⟨es₁, _, [⟨.begin, Except.ok ()⟩], [⟨.rollback, reply⟩], by simp, h, ?_⟩
    exact (statementsOf_append es₁ _).trans (List.append_nil _)

end TenantGate.Http
