import TenantGate.Proofs.Outcome
import TenantGate.Proofs.Query.Calls
import TenantGate.Query.Reading
/-!
# How expressions are read

An expression is read if each of its segments is blank or read as a step, and the steps name a
table (`Expression.read_eq_ok_iff`). A segment that is read and not blank is the text of a call
(`blank_or_call`), whose method is that of the step (`call_of_readStep`).
-/

namespace TenantGate.Query

open Text

/-! ### Steps

A call is read by its method. Each method makes steps of its own kind, which is all that is needed
of the readers of the single methods. -/

/-- The method of the calls that make a step. -/
def Step.method : Step → String
  | .table _ => "table"
  | .select _ => "select"
  | .join _ => "join"
  | .where _ => "where"
  | .orderBy _ => "orderby"
  | .take _ => "take"

section Methods

variable {args : List Literal} {step : Step}

theorem exists_of_readTable (h : readTable args = .ok step) : ∃ base, step = .table base := by
  unfold readTable at h
  split at h
  · obtain ⟨base, -, h⟩ := bind_eq_ok_iff.1 h
    exact ⟨base, pure_eq_ok_iff.1 h⟩
  · cases h

theorem exists_of_readSelect (h : readSelect args = .ok step) :
    ∃ columns, step = .select columns := by
  unfold readSelect at h
  split at h
  · cases h
  · obtain ⟨columns, -, h⟩ := bind_eq_ok_iff.1 h
    exact ⟨columns, pure_eq_ok_iff.1 h⟩

theorem exists_of_readJoin (h : readJoin args = .ok step) : ∃ j, step = .join j := by
  unfold readJoin at h
  split at h
  · simp only [bind_eq_ok_iff, ite_throw_eq_ok_iff, pure_eq_ok_iff] at h
    obtain ⟨target, -, left, -, -, right, -, rfl⟩ := h
    exact ⟨_, rfl⟩
  · cases h

theorem exists_of_readWhere (h : readWhere args = .ok step) : ∃ w, step = .where w := by
  unfold readWhere at h
  split at h
  · obtain ⟨column, -, h⟩ := bind_eq_ok_iff.1 h
    exact ⟨_, pure_eq_ok_iff.1 h⟩
  · simp only [bind_eq_ok_iff, pure_eq_ok_iff] at h
    obtain ⟨op, -, column, -, rfl⟩ := h
    exact ⟨_, rfl⟩
  · cases h

theorem exists_of_readOrder (h : readOrder args = .ok step) : ∃ o, step = .orderBy o := by
  unfold readOrder at h
  split at h
  · simp only [bind_eq_ok_iff, pure_eq_ok_iff] at h
    obtain ⟨column, -, direction, -, rfl⟩ := h
    exact ⟨_, rfl⟩
  · cases h

theorem exists_of_readTake (h : readTake args = .ok step) : ∃ n, step = .take n ∧ 0 < n := by
  unfold readTake at h
  split at h
  · split at h
    · split at h
      · next n _ hpositive =>
        cases h
        exact ⟨n, rfl, hpositive⟩
      · cases h
    · cases h
  · cases h

end Methods

/-- A segment that is read as a step is a call of its method, and a limit is positive. -/
theorem call_of_readStep {i : Nat} {segment : List Char} {step : Step}
    (h : readStep i segment = .ok (some step)) :
    ∃ call, readCall (trimChars segment) = some call ∧ Text.lower call.method = step.method ∧
      ∀ n, step = .take n → 0 < n := by
  unfold readStep at h
  dsimp only at h
  split at h
  · cases h
  split at h
  · cases h
  next call hcall =>
  obtain ⟨step', hread, heq⟩ := map_eq_ok_iff.1 h
  obtain rfl := Option.some.inj heq
  refine ⟨call, hcall, ?_⟩
  -- the methods in the order in which they are tried
  split at hread
  next hmethod =>
    obtain ⟨base, rfl⟩ := exists_of_readTable hread
    exact ⟨hmethod, nofun⟩
  next hmethod =>
    obtain ⟨columns, rfl⟩ := exists_of_readSelect hread
    exact ⟨hmethod, nofun⟩
  next hmethod =>
    obtain ⟨j, rfl⟩ := exists_of_readJoin hread
    exact ⟨hmethod, nofun⟩
  next hmethod =>
    obtain ⟨w, rfl⟩ := exists_of_readWhere hread
    exact ⟨hmethod, nofun⟩
  next hmethod =>
    obtain ⟨o, rfl⟩ := exists_of_readOrder hread
    exact ⟨hmethod, nofun⟩
  next hmethod =>
    obtain ⟨n, rfl, hpositive⟩ := exists_of_readTake hread
    refine ⟨hmethod, ?_⟩
    rintro _ ⟨⟩
    exact hpositive
  next => cases hread

/-! ### Segments

A blank segment is passed over. Any other has to be a call. -/

/-- A segment that is read is blank or the text of a call. -/
theorem blank_or_call_of_readStep {i : Nat} {segment : List Char} {step : Option Step}
    (h : readStep i segment = .ok step) :
    IsBlankText segment ∨ ∃ c : CallText, c.IsProper ∧ c.chars = segment := by
  rw [readStep] at h
  split at h
  next hempty =>
    left
    obtain ⟨bs, bs', hbs, hbs', hsegment⟩ := exists_trimChars segment
    rw [List.isEmpty_iff.1 hempty, List.append_nil] at hsegment
    rw [hsegment]
    exact hbs.append hbs'
  next =>
    right
    cases hcall : readCall (trimChars segment) with
    | none => rw [hcall] at h; cases h
    | some call =>
      obtain ⟨c, hc, hchars, -⟩ := readCall_eq_some_iff.1 hcall
      exact ⟨c, hc, hchars⟩

/-- Each of the segments that are read is read on its own. -/
theorem readStep_of_readSteps {i : Nat} {segs : List (List Char)} {steps : List Step}
    (h : readSteps i segs = .ok steps) : ∀ seg ∈ segs, ∃ j step, readStep j seg = .ok step := by
  -- The induction is on the segments; the index only counts them for failures.
  induction segs generalizing i steps with
  | nil => simp
  | cons seg segs ih =>
    obtain ⟨step, hstep, h⟩ := bind_eq_ok_iff.1 h
    obtain ⟨steps', hsteps, -⟩ := bind_eq_ok_iff.1 h
    exact List.forall_mem_cons.2 ⟨⟨i, step, hstep⟩, ih hsteps⟩

/-! ### Expressions

All segments are read before the steps are carried out, and only then is it asked whether there is a
table. -/

/-- An expression is read step by step, and has to name its table. -/
theorem Expression.read_eq_ok_iff {s : String} {e : Expression} :
    Expression.read s = .ok e ↔
      trimChars s.toList ≠ [] ∧ ∃ steps, readSteps 0 (segments (trimChars s.toList)) = .ok steps ∧
        steps.foldl Expression.apply {} = e ∧ e.base.table ≠ "" := by
  rw [Expression.read, ite_throw_eq_ok_iff, bind_eq_ok_iff, List.isEmpty_iff]
  simp only [ite_throw_eq_ok_iff, pure_eq_ok_iff]
  constructor
  · rintro ⟨hne, steps, hsteps, htable, rfl⟩
    exact ⟨hne, steps, hsteps, rfl, htable⟩
  · rintro ⟨hne, steps, hsteps, rfl, htable⟩
    exact ⟨hne, steps, hsteps, htable, rfl⟩

/-- Every segment of an expression that is read is blank or the text of a call. -/
theorem Expression.blank_or_call {s : String} {e : Expression} (h : Expression.read s = .ok e) :
    ∀ seg ∈ segments (trimChars s.toList),
      IsBlankText seg ∨ ∃ c : CallText, c.IsProper ∧ c.chars = seg := by
  intro seg hseg
  obtain ⟨-, steps, hsteps, -, -⟩ := Expression.read_eq_ok_iff.1 h
  obtain ⟨j, step, hstep⟩ := readStep_of_readSteps hsteps seg hseg
  exact blank_or_call_of_readStep hstep

end TenantGate.Query
