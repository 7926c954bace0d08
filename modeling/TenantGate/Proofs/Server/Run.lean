import TenantGate.Server.Action
/-!
# Runs of a conversation

A `Program` is a decision tree; a run of it is one path from the root to an end. `Program.Run` lists
the path as exchanges, each a request and its reply, and quantifying over the runs of a program is
quantifying over all servers and clocks. Its main law takes a run of `p.bind f` apart into a run of
`p` and a run of what comes after it:

    run_bind_iff : (p.bind f).Run es b ↔
      ∃ es₁ es₂ a, es = es₁ ++ es₂ ∧ p.Run es₁ a ∧ (f a).Run es₂ b

`Action.Run` is the same for actions, where the table cache goes along and a failure ends the rest.
A server that answers by a function of its state gives one run, `Program.play`.
-/

namespace TenantGate

abbrev Server.Exchange := (q : Server.Request) × q.Reply

open Server

namespace Server.Program

variable {α β σ : Type}

/-- Answered as in the exchanges, the conversation comes to its end with a value. -/
inductive Run : Program α → List Exchange → α → Prop where
  | done (a : α) : Run (.done a) [] a
  | ask {q : Request} {next : q.Reply → Program α} {r : q.Reply} {es : List Exchange} {a : α}
      (h : Run (next r) es a) : Run (.ask q next) (⟨q, r⟩ :: es) a

/-- At the end of a conversation nothing more is exchanged. -/
theorem run_done_iff {a b : α} {es : List Exchange} :
    (Program.done a).Run es b ↔ es = [] ∧ b = a := by
  constructor
  · rintro ⟨⟩
    exact ⟨rfl, rfl⟩
  · rintro ⟨rfl, rfl⟩
    exact .done _

/-- A run of two conversations in a row is a run of the first and then one of the second. -/
theorem run_bind_iff {p : Program α} {f : α → Program β} {es : List Exchange} {b : β} :
    (p.bind f).Run es b ↔ ∃ es₁ es₂ a, es = es₁ ++ es₂ ∧ p.Run es₁ a ∧ (f a).Run es₂ b := by
  -- Both directions go down the tree of the first conversation: the run of the whole is cut where
  -- that one ends, and two runs are joined there.
  constructor
  · intro h
    induction p generalizing es with
    | done a => exact ⟨[], es, a, rfl, .done a, h⟩
    | ask q next ih =>
      cases h with
      | ask h =>
        obtain ⟨es₁, es₂, a, rfl, h₁, h₂⟩ := ih _ h
        exact ⟨_ :: es₁, es₂, a, rfl, .ask h₁, h₂⟩
  · rintro ⟨es₁, es₂, a, rfl, h₁, h₂⟩
    induction h₁ with
    | done a => exact h₂
    | ask _ ih => exact .ask (ih h₂)

/-! ### One server

A run fixes the replies in advance. Where a server answers from its state, the replies are found by
playing; so a statement about all runs holds of what any server makes of the conversation. -/

/-- Play a conversation against a server that answers by its state: what it ends with, the
exchanges, and the state that is left. -/
def play (reply : (q : Request) → σ → q.Reply × σ) : Program α → σ → α × List Exchange × σ
  | done a, s => (a, [], s)
  | ask q next, s =>
    let (r, s') := reply q s
    let (a, es, s'') := (next r).play reply s'
    (a, ⟨q, r⟩ :: es, s'')

/-- What is played is a run. -/
theorem play_run (reply : (q : Request) → σ → q.Reply × σ) (p : Program α) (s : σ) :
    p.Run (p.play reply s).2.1 (p.play reply s).1 := by
  induction p generalizing s with
  | done a => exact .done a
  | ask q next ih => exact .ask (ih _ _)

/-- Where each request of a conversation, on whatever run, is answered alike in related states and
leaves related states, the whole conversation is played alike. -/
theorem play_congr (reply : (q : Request) → σ → q.Reply × σ) {P : Request → Prop}
    {R : σ → σ → Prop} {p : Program α} {s t : σ} (hp : ∀ {es a}, p.Run es a → ∀ e ∈ es, P e.1)
    (hstep : ∀ q s t, P q → R s t → (reply q s).1 = (reply q t).1 ∧ R (reply q s).2 (reply q t).2)
    (h : R s t) :
    (p.play reply s).1 = (p.play reply t).1 ∧ (p.play reply s).2.1 = (p.play reply t).2.1 ∧
      R (p.play reply s).2.2 (p.play reply t).2.2 := by
  -- The induction is on the conversation; the states stay related after each reply, and so the next
  -- requests are the same.
  induction p generalizing s t with
  | done a => exact ⟨rfl, rfl, h⟩
  | ask q next ih =>
    -- the first request stands on a run, that of what is played after it
    have hq : P q := hp (.ask (play_run reply (next (reply q s).1) s)) ⟨q, _⟩ List.mem_cons_self
    obtain ⟨hreply, hstates⟩ := hstep q s t hq h
    obtain ⟨hvalue, hexchanges, hend⟩ := ih (reply q s).1
      (fun hrun e he => hp (.ask hrun) e (List.mem_cons_of_mem _ he)) hstates
    simp only [play, ← hreply, hvalue, hexchanges, true_and]
    exact hend

/-- What each request of a conversation keeps of a state, the whole conversation keeps. -/
theorem play_preserves (reply : (q : Request) → σ → q.Reply × σ) {P : Request → Prop}
    {I : σ → Prop} {p : Program α} {s : σ} (hp : ∀ {es a}, p.Run es a → ∀ e ∈ es, P e.1)
    (hstep : ∀ q s, P q → I s → I (reply q s).2) (h : I s) : I (p.play reply s).2.2 := by
  induction p generalizing s with
  | done a => exact h
  | ask q next ih =>
    have hq : P q := hp (.ask (play_run reply (next (reply q s).1) s)) ⟨q, _⟩ List.mem_cons_self
    exact ih (reply q s).1 (fun hrun e he => hp (.ask hrun) e (List.mem_cons_of_mem _ he))
      (hstep q s hq h)

end Server.Program

/-! ### Statements among exchanges

The catalog is read by requests of its own kind, so that statements are counted apart from them. -/

/-- The statement that a request sends, if it sends one. -/
def Server.Request.statement? : Request → Option Sql.Statement
  | .execute s => some s
  | _ => none

/-- The statements that exchanges sent, in order; the reads of the catalog are not among them. -/
def Server.statementsOf (es : List Exchange) : List Sql.Statement :=
  es.filterMap fun e => e.1.statement?

@[simp] theorem Server.statementsOf_nil : statementsOf [] = [] := rfl

@[simp] theorem Server.statementsOf_append (es fs : List Exchange) :
    statementsOf (es ++ fs) = statementsOf es ++ statementsOf fs :=
  List.filterMap_append

/-! ### Actions

An action reads and writes the cache and may fail. The rules below take a run of each way to build
an action apart; proofs about the service go by them and never open the monad. -/

namespace Action

variable {α β : Type}

/-- Answered as in the exchanges, the action gives a result and turns one cache into another. -/
def Run (x : Action α) (c : TableCache) (es : List Exchange) (r : Except Failure α)
    (c' : TableCache) : Prop :=
  Program.Run (x c) es (r, c')

variable {c c' : TableCache} {es : List Exchange}

/-- To give a value, nothing is exchanged. -/
theorem run_pure_iff {a : α} {r : Except Failure α} :
    (pure a : Action α).Run c es r c' ↔ es = [] ∧ r = .ok a ∧ c' = c := by
  show (Program.done (Except.ok a, c)).Run es (r, c') ↔ _
  rw [Program.run_done_iff, Prod.mk.injEq]

/-- To fail, nothing is exchanged. -/
theorem run_throw_iff {e : Failure} {r : Except Failure α} :
    (throw e : Action α).Run c es r c' ↔ es = [] ∧ r = .error e ∧ c' = c := by
  show (Program.done (Except.error e, c)).Run es (r, c') ↔ _
  rw [Program.run_done_iff, Prod.mk.injEq]

/-- To use the cache, nothing is exchanged. -/
theorem run_modifyGet_iff {f : TableCache → α × TableCache} {r : Except Failure α} :
    (modifyGet f : Action α).Run c es r c' ↔ es = [] ∧ r = .ok (f c).1 ∧ c' = (f c).2 := by
  show (Program.done (Except.ok (f c).1, (f c).2)).Run es (r, c') ↔ _
  rw [Program.run_done_iff, Prod.mk.injEq]

/-- To make a request is one exchange, which leaves the cache alone. -/
theorem run_ask_iff {q : Request} {r : Except Failure q.Reply} :
    (ask q).Run c es r c' ↔ ∃ reply, es = [⟨q, reply⟩] ∧ r = .ok reply ∧ c' = c := by
  constructor
  · intro h
    cases h with
    | ask h =>
      obtain ⟨rfl, hr⟩ := Program.run_done_iff.1 h
      obtain ⟨rfl, rfl⟩ := Prod.mk.inj hr
      exact ⟨_, rfl, rfl, rfl⟩
  · rintro ⟨reply, rfl, rfl, rfl⟩
    exact .ask (.done _)

/-- What comes after an action is done with the cache that the action has left. -/
theorem bind_apply (x : Action α) (f : α → Action β) (c : TableCache) :
    (x >>= f) c = (x c).bind fun p =>
      match p.1 with
      | .ok a => f a p.2
      | .error e => .done (.error e, p.2) := by
  show Program.bind (x c) _ = _
  congr 1
  funext p
  obtain ⟨e | a, c'⟩ := p <;> rfl

/-- An action and what comes after it: either the first fails, or it gives a value that the second
goes on with. -/
theorem run_bind_iff {x : Action α} {f : α → Action β} {r : Except Failure β} :
    (x >>= f).Run c es r c' ↔
      (∃ e, r = .error e ∧ x.Run c es (.error e) c') ∨
      ∃ es₁ es₂ a c₁, es = es₁ ++ es₂ ∧ x.Run c es₁ (.ok a) c₁ ∧ (f a).Run c₁ es₂ r c' := by
  rw [Run, bind_apply, Program.run_bind_iff]
  constructor
  · rintro ⟨es₁, es₂, ⟨e | a, c₁⟩, rfl, h₁, h₂⟩
    -- after a failure nothing is exchanged
    · obtain ⟨rfl, hr⟩ := Program.run_done_iff.1 h₂
      obtain ⟨rfl, rfl⟩ := Prod.mk.inj hr
      rw [List.append_nil]
      exact .inl ⟨e, rfl, h₁⟩
    · exact .inr ⟨es₁, es₂, a, c₁, rfl, h₁, h₂⟩
  · rintro (⟨e, rfl, h⟩ | ⟨es₁, es₂, a, c₁, rfl, h₁, h₂⟩)
    · exact ⟨es, [], (.error e, c'), (List.append_nil es).symm, h, .done _⟩
    · exact ⟨es₁, es₂, (.ok a, c₁), rfl, h₁, h₂⟩

/-- To make a request and go on with the reply. -/
theorem run_ask_bind_iff {q : Request} {f : q.Reply → Action β} {r : Except Failure β} :
    (ask q >>= f).Run c es r c' ↔
      ∃ reply es', es = ⟨q, reply⟩ :: es' ∧ (f reply).Run c es' r c' := by
  show (Program.ask q fun reply => f reply c).Run es (r, c') ↔ _
  constructor
  · intro h
    cases h with
    | ask h => exact ⟨_, _, rfl, h⟩
  · rintro ⟨reply, es', rfl, h⟩
    exact .ask h

/-- To go on with a value, or fail. -/
theorem run_ofExcept_bind_iff {x : Except Failure α} {f : α → Action β} {r : Except Failure β} :
    (ofExcept x >>= f).Run c es r c' ↔
      (∃ e, x = .error e ∧ es = [] ∧ r = .error e ∧ c' = c) ∨
      ∃ a, x = .ok a ∧ (f a).Run c es r c' := by
  cases x with
  | ok a =>
    show (f a).Run c es r c' ↔ _
    simp
  | error e =>
    show (throw e : Action β).Run c es r c' ↔ _
    simp [run_throw_iff]

/-- To go on with what the server gave, or fail as it did. -/
theorem run_ofReply_bind_iff {x : Except DatabaseFailure α} {f : α → Action β}
    {r : Except Failure β} :
    (ofReply x >>= f).Run c es r c' ↔
      (∃ e, x = .error e ∧ es = [] ∧ r = .error (.database e) ∧ c' = c) ∨
      ∃ a, x = .ok a ∧ (f a).Run c es r c' := by
  cases x with
  | ok a =>
    show (f a).Run c es r c' ↔ _
    simp
  | error e =>
    show (throw (Failure.database e) : Action β).Run c es r c' ↔ _
    simp [run_throw_iff]

/-- To go on after a conversation that cannot fail. -/
theorem run_lift_bind_iff {x : StateT TableCache Program α} {f : α → Action β}
    {r : Except Failure β} :
    Action.Run (ExceptT.lift x >>= f) c es r c' ↔
      ∃ es₁ es₂ a c₁, es = es₁ ++ es₂ ∧ Program.Run (x c) es₁ (a, c₁) ∧ (f a).Run c₁ es₂ r c' := by
  have happly : ((ExceptT.lift x : Action α) >>= f) c = (x c).bind fun p => f p.1 p.2 := by
    show ((x c).bind fun p => .done (Except.ok p.1, p.2)).bind _ = _
    rw [Program.bind_assoc]
    rfl
  rw [Run, happly, Program.run_bind_iff]
  constructor
  · rintro ⟨es₁, es₂, ⟨a, c₁⟩, rfl, h₁, h₂⟩
    exact ⟨es₁, es₂, a, c₁, rfl, h₁, h₂⟩
  · rintro ⟨es₁, es₂, a, c₁, rfl, h₁, h₂⟩
    exact ⟨es₁, es₂, (a, c₁), rfl, h₁, h₂⟩

/-- What is done in case of a failure is done only then. -/
theorem run_tryCatch_cases {x : Action α} {handle : Failure → Action α} {r : Except Failure α}
    (h : Action.Run (tryCatch x handle) c es r c') :
    (∃ a, r = .ok a ∧ x.Run c es (.ok a) c') ∨
      ∃ es₁ es₂ e c₁, es = es₁ ++ es₂ ∧ x.Run c es₁ (.error e) c₁ ∧ (handle e).Run c₁ es₂ r c' := by
  have hrun : (Program.bind (x c) _).Run es (r, c') := h
  obtain ⟨es₁, es₂, ⟨e | a, c₁⟩, rfl, h₁, h₂⟩ := Program.run_bind_iff.1 hrun
  · exact .inr ⟨es₁, es₂, e, c₁, rfl, h₁, h₂⟩
  · obtain ⟨rfl, hr⟩ := Program.run_done_iff.1 h₂
    obtain ⟨rfl, rfl⟩ := Prod.mk.inj hr
    rw [List.append_nil]
    exact .inl ⟨a, rfl, h₁⟩

/-! ### What an action asks for

A bound on the requests of an action, whatever the replies. It is shown part by part along the way
the action is built. -/

/-- Every request that the action makes, on whatever run, is one of those allowed. -/
def Asks (x : Action α) (P : Request → Prop) : Prop :=
  ∀ ⦃c es r c'⦄, x.Run c es r c' → ∀ e ∈ es, P e.1

variable {P Q : Request → Prop}

theorem Asks.imp {x : Action α} (h : x.Asks P) (hpq : ∀ q, P q → Q q) : x.Asks Q :=
  fun _ _ _ _ hrun e he => hpq _ (h hrun e he)

theorem asks_pure (a : α) : (pure a : Action α).Asks P := by
  intro c es r c' h
  obtain ⟨rfl, -, -⟩ := run_pure_iff.1 h
  simp

theorem asks_throw (e : Failure) : (throw e : Action α).Asks P := by
  intro c es r c' h
  obtain ⟨rfl, -, -⟩ := run_throw_iff.1 h
  simp

theorem asks_ofExcept (x : Except Failure α) : (ofExcept x).Asks P := by
  cases x with
  | ok a => exact asks_pure a
  | error e => exact asks_throw e

theorem asks_ofReply (x : Except DatabaseFailure α) : (ofReply x).Asks P := by
  cases x with
  | ok a => exact asks_pure a
  | error e => exact asks_throw _

theorem asks_modifyGet (f : TableCache → α × TableCache) : (modifyGet f : Action α).Asks P := by
  intro c es r c' h
  obtain ⟨rfl, -, -⟩ := run_modifyGet_iff.1 h
  simp

theorem asks_ask {q : Request} (h : P q) : (ask q).Asks P := by
  intro c es r c' hrun
  obtain ⟨reply, rfl, -, -⟩ := run_ask_iff.1 hrun
  simpa using h

/-- Two actions in a row keep to a bound if each does. -/
theorem Asks.bind {x : Action α} {f : α → Action β} (hx : x.Asks P) (hf : ∀ a, (f a).Asks P) :
    (x >>= f).Asks P := by
  intro c es r c' h
  rcases run_bind_iff.1 h with ⟨e, -, h⟩ | ⟨es₁, es₂, a, c₁, rfl, h₁, h₂⟩
  · exact hx h
  · intro e he
    rcases List.mem_append.1 he with he | he
    · exact hx h₁ e he
    · exact hf a h₂ e he

/-- What comes after a value that is there asks what is allowed after that value. -/
theorem asks_ofExcept_bind {x : Except Failure α} {f : α → Action β}
    (hf : ∀ a, x = .ok a → (f a).Asks P) : (ofExcept x >>= f).Asks P := by
  cases x with
  | ok a => exact hf a rfl
  | error e => exact asks_throw e

theorem asks_execute {s : Sql.Statement} (h : P (.execute s)) : (execute s).Asks P :=
  (asks_ask h).bind fun _ => asks_ofReply _

/-- Where no statement is asked for, none is sent. -/
theorem statementsOf_eq_nil {x : Action α} (hx : x.Asks fun q => q.statement? = none)
    {r : Except Failure α} (h : x.Run c es r c') : statementsOf es = [] :=
  List.filterMap_eq_nil_iff.2 fun e he => hx h e he

end Action
end TenantGate
