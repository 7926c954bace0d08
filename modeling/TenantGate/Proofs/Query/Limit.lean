import TenantGate.Proofs.Query.Plan
import TenantGate.Proofs.Query.Reading
import TenantGate.Proofs.Sql.Numbering
/-!
# Limits of query expressions

A limit that is read is positive (`Expression.limit_pos`), and within a greatest one it lies between
one and that (`limitWithin_bounds`). In the statement it stands at the end: the last placeholder is
that of the limit (`Statement.EndsInLimit`).
-/

namespace TenantGate

open Sql

/-! ### At the end of a statement

The limit is the last clause and the last value. Whatever stands before it is left open. -/

/-- The text ends in `LIMIT` and the last of the placeholders, which is bound to the limit. -/
def Sql.Statement.EndsInLimit (st : Statement) (limit : Int64) : Prop :=
  (∃ head, st.text = head ++ " LIMIT $" ++ Number.natText st.parameters.length) ∧
    st.parameters.getLast? = some (.int limit)

/-- A query with a limit ends in it. -/
theorem Sql.Statement.endsInLimit_select {q : Sql.Query} {limit : Int64}
    (h : q.extent = .atMost limit) : (Statement.select q).EndsInLimit limit := by
  obtain ⟨front, hfront⟩ : ∃ front, q.tokens = front ++ q.extent.tokens :=
    ⟨_, rfl⟩
  have htokens : (Statement.select q).tokens =
      front ++ [.word .limit, .bound (.ofInt64 limit)] := by
    rw [Statement.tokens, hfront, h]
    rfl
  have hparameters : (Statement.select q).parameters = boundValues front ++ [.int limit] := by
    rw [Statement.parameters, htokens, boundValues_append]
    rfl
  refine ⟨⟨textFrom 1 front, ?_⟩, ?_⟩
  · rw [Statement.text, htokens, textFrom_append, hparameters, List.length_append,
      List.length_singleton, Nat.add_comm]
    have hlimit (n : String) : " LIMIT " ++ ("$" ++ n) = " LIMIT $" ++ n := by
      rw [← String.append_assoc]
      rfl
    simp [Word.text, placeholder, Bound.ofInt64, String.append_assoc, hlimit]
  · rw [hparameters, List.getLast?_append_cons]
    rfl

namespace Query

/-! ### Limits that are read

Only `take` sets a limit, and it asks for a positive one; so every expression that is built from
steps that were read has a positive limit or none. -/

/-- A step that limits the rows allows at least one. -/
def Step.AllowsRows : Step → Prop
  | .take n => 0 < n
  | _ => True

theorem allowsRows_of_readStep {i : Nat} {segment : List Char} {step : Step}
    (h : readStep i segment = .ok (some step)) : step.AllowsRows := by
  obtain ⟨-, -, -, hpositive⟩ := call_of_readStep h
  cases step with
  | take n => exact hpositive n rfl
  | _ => trivial

theorem allowsRows_of_readSteps {i : Nat} {segs : List (List Char)} {steps : List Step}
    (h : readSteps i segs = .ok steps) : ∀ step ∈ steps, step.AllowsRows := by
  -- The induction is on the segments; a blank one adds no step.
  induction segs generalizing i steps with
  | nil =>
    cases h
    simp
  | cons seg segs ih =>
    obtain ⟨first, hfirst, h⟩ := bind_eq_ok_iff.1 h
    obtain ⟨rest, hrest, h⟩ := bind_eq_ok_iff.1 h
    rw [pure_eq_ok_iff.1 h, List.forall_mem_append]
    refine ⟨fun step hstep => ?_, ih hrest⟩
    -- a blank segment is no step, and any other is the step that it is read as
    rw [Option.mem_toList.1 hstep] at hfirst
    exact allowsRows_of_readStep hfirst

/-- The expression has no limit, or one that allows a row. -/
def Expression.AllowsRows (e : Expression) : Prop := ∀ n, e.limit = some n → 0 < n

theorem Expression.AllowsRows.apply {e : Expression} (he : e.AllowsRows) {step : Step}
    (hstep : step.AllowsRows) : (e.apply step).AllowsRows := by
  cases step with
  | take n =>
    rintro _ ⟨⟩
    exact hstep
  | _ => exact he

/-- A limit that is read is positive. -/
theorem Expression.limit_pos {text : String} {e : Expression} (h : Expression.read text = .ok e) :
    e.AllowsRows := by
  obtain ⟨-, steps, hsteps, rfl, -⟩ := Expression.read_eq_ok_iff.1 h
  exact List.foldlRecOn steps _ (by rintro n ⟨⟩) fun e he step hstep =>
    he.apply (allowsRows_of_readSteps hsteps step hstep)

/-! ### Limits within a greatest one

A limit that an expression lacks, or one that is out of bounds, is replaced by the greatest. -/

/-- Within a positive limit there is always room for a row. -/
theorem limitWithin_bounds (limit : Option Int64) {greatest : Int64} (h : 0 < greatest) :
    0 < limitWithin limit greatest ∧ limitWithin limit greatest ≤ greatest := by
  unfold limitWithin
  split
  · split
    · next hwithin => exact hwithin
    · exact ⟨h, Int64.le_refl greatest⟩
  · exact ⟨h, Int64.le_refl greatest⟩

theorem limitWithin_eq {n greatest : Int64} (h : 0 < n ∧ n ≤ greatest) :
    limitWithin (some n) greatest = n := if_pos h

/-- A planned query with a positive limit ends in it. -/
theorem endsInLimit_of_plan {e : Expression} {tenant : Tenant} {tables : Dict Table}
    {columns : TenantNaming} {q : Sql.Query} {n : Int64} (hlimit : e.limit = some n) (hn : 0 < n)
    (h : plan e tenant tables columns = .ok q) : (Statement.select q).EndsInLimit n := by
  obtain ⟨base, joined, tenants, outs, joins, wheres, order, -, -, -, -, -, -, -, -, -, rfl⟩ :=
    plan_eq_ok_iff.1 h
  refine Statement.endsInLimit_select ?_
  show extentOf e.limit = _
  rw [hlimit]
  exact if_pos hn

end Query
end TenantGate
