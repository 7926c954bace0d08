import TenantGate.Proofs.Server.Run
/-!
# What runs under given answers establish

`Action.Ensures A I x Q` says of an action `x` that, as long as every reply it gets is one that `A`
admits, it keeps the property `I` of the table cache and its result has the property `Q`. Actions in
a row are taken one after the other (`Ensures.bind`). A server that answers by a function of its
state, and only as admitted, plays such a run (`Ensures.play`).
-/

namespace TenantGate

open Server

/-- A server that answers by its state answers a whole conversation as it answers each request. -/
theorem Server.Program.play_answers {α σ : Type} {reply : (q : Request) → σ → q.Reply × σ}
    {A : Exchange → Prop} (hreply : ∀ q st, A ⟨q, (reply q st).1⟩) (p : Program α) (st : σ) :
    ∀ e ∈ (p.play reply st).2.1, A e := by
  -- The induction is on the conversation; each reply is admitted, whatever state it is given in.
  induction p generalizing st with
  | done a => simp [play]
  | ask q next ih =>
    intro e he
    rcases List.mem_cons.1 he with rfl | he
    · exact hreply q st
    · exact ih _ _ e he

namespace Action

variable {α β : Type} {A : Exchange → Prop} {I : TableCache → Prop} {x : Action α}
  {f : α → Action β} {Q : Except Failure α → Prop} {R : Except Failure β → Prop}

/-- Answered as admitted, the action keeps `I` of the cache, and `Q` holds of its result. -/
def Ensures (A : Exchange → Prop) (I : TableCache → Prop) (x : Action α)
    (Q : Except Failure α → Prop) : Prop :=
  ∀ ⦃c es r c'⦄, x.Run c es r c' → (∀ e ∈ es, A e) → I c → Q r ∧ I c'

theorem Ensures.imp {Q' : Except Failure α → Prop} (hx : x.Ensures A I Q) (h : ∀ r, Q r → Q' r) :
    x.Ensures A I Q' := fun _ _ _ _ hrun hes hc => (hx hrun hes hc).imp_left (h _)

theorem ensures_pure {a : α} (h : Q (.ok a)) : (pure a : Action α).Ensures A I Q := by
  intro c es r c' hrun _ hc
  obtain ⟨-, rfl, rfl⟩ := run_pure_iff.1 hrun
  exact ⟨h, hc⟩

theorem ensures_throw {e : Failure} (h : Q (.error e)) : (throw e : Action α).Ensures A I Q := by
  intro c es r c' hrun _ hc
  obtain ⟨-, rfl, rfl⟩ := run_throw_iff.1 hrun
  exact ⟨h, hc⟩

theorem ensures_ofExcept (r : Except Failure α) : (ofExcept r).Ensures A I (· = r) := by
  cases r with
  | ok a => exact ensures_pure rfl
  | error e => exact ensures_throw rfl

theorem ensures_ofReply (reply : Except DatabaseFailure α) :
    (ofReply reply).Ensures A I (· = reply.mapError .database) := by
  cases reply with
  | ok a => exact ensures_pure rfl
  | error e => exact ensures_throw rfl

/-- To use the cache is where `I` has to be preserved. -/
theorem ensures_modifyGet {g : TableCache → α × TableCache} {P : α → Prop}
    (h : ∀ c, I c → P (g c).1 ∧ I (g c).2) :
    (modifyGet g : Action α).Ensures A I fun r => ∃ a, r = .ok a ∧ P a := by
  intro c es r c' hrun _ hc
  obtain ⟨-, rfl, rfl⟩ := run_modifyGet_iff.1 hrun
  exact ⟨⟨(g c).1, rfl, (h c hc).1⟩, (h c hc).2⟩

/-- The reply to a request is an admitted one. -/
theorem ensures_ask (q : Request) :
    (ask q).Ensures A I fun r => ∃ reply, r = .ok reply ∧ A ⟨q, reply⟩ := by
  intro c es r c' hrun hes hc
  obtain ⟨reply, rfl, rfl, rfl⟩ := run_ask_iff.1 hrun
  exact ⟨⟨reply, rfl, hes _ List.mem_cons_self⟩, hc⟩

/-- One action after the other: what holds of a value of the first may be used for the second, and
what holds of a failure is kept. -/
theorem Ensures.bind (hx : x.Ensures A I Q) (hf : ∀ a, Q (.ok a) → (f a).Ensures A I R)
    (herror : ∀ e, Q (.error e) → R (.error e)) : (x >>= f).Ensures A I R := by
  intro c es r c' hrun hes hc
  rcases run_bind_iff.1 hrun with ⟨e, rfl, h⟩ | ⟨es₁, es₂, a, c₁, rfl, h₁, h₂⟩
  · exact (hx h hes hc).imp_left (herror e)
  · obtain ⟨ha, hc₁⟩ := hx h₁ (fun e he => hes e (List.mem_append_left _ he)) hc
    exact hf a ha h₂ (fun e he => hes e (List.mem_append_right _ he)) hc₁

/-- An action that never fails is followed by the next. -/
theorem Ensures.bind_ok {P : α → Prop} (hx : x.Ensures A I fun r => ∃ a, r = .ok a ∧ P a)
    (hf : ∀ a, P a → (f a).Ensures A I R) : (x >>= f).Ensures A I R := by
  refine hx.bind ?_ ?_
  · rintro a ⟨_, ⟨⟩, ha⟩
    exact hf a ha
  · rintro e ⟨_, ⟨⟩, -⟩

/-- Where each of two actions in a row has one result, so have both together. -/
theorem Ensures.bind_eq {rx : Except Failure α} {g : α → Except Failure β}
    (hx : x.Ensures A I (· = rx)) (hf : ∀ a, rx = .ok a → (f a).Ensures A I (· = g a)) :
    (x >>= f).Ensures A I (· = rx >>= g) := by
  refine hx.bind ?_ ?_
  · intro a ha
    rw [← ha]
    exact hf a ha.symm
  · intro e he
    rw [← he]
    rfl

/-- After a failure nothing is done. -/
theorem Ensures.bind_error {e : Failure} (hx : x.Ensures A I (· = .error e)) :
    (x >>= f).Ensures A I (· = .error e) :=
  hx.bind (fun _ ha => nomatch ha) fun _ he => congrArg Except.error (Except.error.inj he)

/-! ### Whatever the answers

The case in which every reply is admitted. Then nothing is known of failures, and only the values
that are given matter. -/

/-- Whatever the answers, the action keeps `I` of the cache, and `P` holds of a value that it gives.
-/
def Yields (I : TableCache → Prop) (x : Action α) (P : α → Prop) : Prop :=
  x.Ensures (fun _ => True) I fun r => ∀ a, r = .ok a → P a

section

variable {P : α → Prop} {P' : β → Prop}

theorem yields_pure {a : α} (h : P a) : Yields I (pure a) P :=
  ensures_pure fun _ heq => Except.ok.inj heq ▸ h

/-- A failure gives no value. -/
theorem yields_throw {e : Failure} : Yields I (throw e) P :=
  ensures_throw nofun

theorem yields_ofExcept {y : Except Failure α} (h : ∀ a, y = .ok a → P a) :
    Yields I (ofExcept y) P := by
  refine (ensures_ofExcept y).imp ?_
  rintro r rfl
  exact h

theorem yields_ofReply (reply : Except DatabaseFailure α) :
    Yields I (ofReply reply) fun _ => True :=
  (ensures_ofReply reply).imp fun _ _ _ _ => trivial

/-- A reply is any reply. -/
theorem yields_ask (q : Request) : Yields I (ask q) fun _ => True :=
  (ensures_ask q).imp fun _ _ _ _ => trivial

/-- To use the cache is where `I` has to be preserved. -/
theorem yields_modifyGet {g : TableCache → α × TableCache} (h : ∀ c, I c → P (g c).1 ∧ I (g c).2) :
    Yields I (modifyGet g) P := by
  refine (ensures_modifyGet h).imp ?_
  rintro r ⟨a, rfl, ha⟩ _ ⟨⟩
  exact ha

/-- Two actions in a row, the second with a value that the first gives. -/
theorem Yields.bind (hx : Yields I x P) (hf : ∀ a, P a → Yields I (f a) P') :
    Yields I (x >>= f) P' :=
  Ensures.bind hx (fun a ha => hf a (ha a rfl)) fun _ _ => nofun

/-- What is done in case of a failure comes after an action that has kept `I` as well. -/
theorem Yields.tryCatch {handle : Failure → Action α} (hx : Yields I x P)
    (hhandle : ∀ e, Yields I (handle e) P) : Yields I (tryCatch x handle) P := by
  intro c es r c' hrun _ hc
  rcases run_tryCatch_cases hrun with ⟨a, rfl, h⟩ | ⟨es₁, es₂, e, c₁, rfl, h₁, h₂⟩
  · exact hx h (fun _ _ => trivial) hc
  · exact hhandle e h₂ (fun _ _ => trivial) (hx h₁ (fun _ _ => trivial) hc).2

end

/-! ### One server

From all runs to the one that a server plays. -/

/-- A server that answers as admitted plays a run. -/
theorem Ensures.play {σ : Type} {reply : (q : Request) → σ → q.Reply × σ}
    (hreply : ∀ q st, A ⟨q, (reply q st).1⟩) (hx : x.Ensures A I Q) {c : TableCache} (hc : I c)
    (st : σ) : Q ((x c).play reply st).1.1 ∧ I ((x c).play reply st).1.2 :=
  hx (Program.play_run reply (x c) st) (Program.play_answers hreply (x c) st) hc

end Action
end TenantGate
