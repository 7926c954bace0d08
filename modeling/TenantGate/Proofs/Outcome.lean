import Mathlib.Data.List.Forall2
/-!
# Steps that may fail

A computation that may fail gives a value when every step of it does. For a step and what comes
after it this is `bind_eq_ok_iff`, for a step on each element of a list `mapM_eq_ok_iff`. It fails
with the error of the first step that does: `FailsAt` says where errors are, and has a rule for
each way to put steps together.
-/

namespace TenantGate

variable {ε α β γ : Type}

/-- A step and what comes after it give a value if both do. -/
theorem bind_eq_ok_iff {x : Except ε α} {f : α → Except ε β} {b : β} :
    (x >>= f) = .ok b ↔ ∃ a, x = .ok a ∧ f a = .ok b := by
  cases x with
  | error e => simp [bind, Except.bind]
  | ok a => simp [bind, Except.bind]

/-- They fail if the step fails, or if it gives a value and what comes after it fails. -/
theorem bind_eq_error_iff {x : Except ε α} {f : α → Except ε β} {e : ε} :
    (x >>= f) = .error e ↔ x = .error e ∨ ∃ a, x = .ok a ∧ f a = .error e := by
  cases x with
  | error e => simp [bind, Except.bind]
  | ok a => simp [bind, Except.bind]

theorem pure_eq_ok_iff {a b : α} : (pure a : Except ε α) = .ok b ↔ b = a := by
  show Except.ok a = .ok b ↔ _
  rw [Except.ok.injEq, eq_comm]

theorem map_eq_ok_iff {f : α → β} {x : Except ε α} {b : β} :
    f <$> x = .ok b ↔ ∃ a, x = .ok a ∧ f a = b := by
  cases x with
  | error e => simp [Functor.map, Except.map]
  | ok a => simp [Functor.map, Except.map]

/-- A check before what follows. -/
theorem ite_throw_eq_ok_iff {p : Prop} [Decidable p] {e : ε} {f : α → Except ε β} {x : Except ε β}
    {b : β} : (if p then (throw e : Except ε α) >>= f else x) = .ok b ↔ ¬ p ∧ x = .ok b := by
  by_cases hp : p
  · rw [if_pos hp]
    exact ⟨(by cases ·), fun h => absurd hp h.1⟩
  · rw [if_neg hp, and_iff_right hp]

theorem toOption_eq_some_iff {x : Except ε α} {a : α} : x.toOption = some a ↔ x = .ok a := by
  cases x <;> simp [Except.toOption]

/-- A step on each element of a list gives a list if it gives a value for each element. -/
theorem mapM_eq_ok_iff {f : α → Except ε β} {l : List α} {r : List β} :
    l.mapM f = .ok r ↔ List.Forall₂ (fun a b => f a = .ok b) l r := by
  induction l generalizing r with
  | nil => rw [List.mapM_nil, pure_eq_ok_iff, List.forall₂_nil_left_iff]
  | cons a l ih =>
    rw [List.mapM_cons, bind_eq_ok_iff, List.forall₂_cons_left_iff]
    constructor
    · rintro ⟨b, hb, h⟩
      obtain ⟨bs, hbs, h⟩ := bind_eq_ok_iff.1 h
      exact ⟨b, bs, hb, ih.1 hbs, pure_eq_ok_iff.1 h⟩
    · rintro ⟨b, bs, hb, hbs, rfl⟩
      exact ⟨b, hb, bind_eq_ok_iff.2 ⟨bs, ih.2 hbs, rfl⟩⟩

/-- Of two lists related element by element, each element of the second has one of the first. -/
theorem exists_of_forall₂ {R : α → β → Prop} {l : List α} {r : List β} (h : List.Forall₂ R l r)
    {b : β} (hb : b ∈ r) : ∃ a ∈ l, R a b := by
  induction h with
  | nil => cases hb
  | cons hab _ ih =>
    rcases List.mem_cons.1 hb with rfl | hb
    · exact ⟨_, List.mem_cons_self, hab⟩
    · obtain ⟨a, ha, hr⟩ := ih hb
      exact ⟨a, List.mem_cons_of_mem _ ha, hr⟩

/-- Of two lists related element by element, what all of the second have and what all of the first
have are the same, if it is so for related elements. -/
theorem forall_iff_of_forall₂ {R : α → β → Prop} {P : α → Prop} {Q : β → Prop} {l : List α}
    {r : List β} (h : List.Forall₂ R l r) (hR : ∀ a b, R a b → (Q b ↔ P a)) :
    (∀ b ∈ r, Q b) ↔ ∀ a ∈ l, P a := by
  induction h with
  | nil => simp
  | cons hab _ ih => rw [List.forall_mem_cons, List.forall_mem_cons, hR _ _ hab, ih]

theorem exists_iff_of_forall₂ {R : α → β → Prop} {P : α → Prop} {Q : β → Prop} {l : List α}
    {r : List β} (h : List.Forall₂ R l r) (hR : ∀ a b, R a b → (Q b ↔ P a)) :
    (∃ b ∈ r, Q b) ↔ ∃ a ∈ l, P a := by
  induction h with
  | nil => simp
  | cons hab _ ih => rw [List.exists_mem_cons_iff, List.exists_mem_cons_iff, hR _ _ hab, ih]

/-! ### The first failure

A whole computation visits many places, and an error can be at each of them. The list of the places
in the order of the visits says which error is reported: that of the first place that has one. Each
rule below puts together the lists of its steps as the computation puts together the steps. -/

section First

variable {R : α → ε → Prop} {l l' : List α} {a : α} {e : ε}

/-- The first element of a list that has an error, with its error. -/
def IsFirst (R : α → ε → Prop) (l : List α) (a : α) (e : ε) : Prop :=
  ∃ before after, l = before ++ a :: after ∧ (∀ b ∈ before, ∀ e, ¬ R b e) ∧ R a e

theorem not_isFirst_nil : ¬ IsFirst R [] a e := by
  rintro ⟨before, after, hl, -⟩
  cases before <;> cases hl

/-- The first element has an error, or it has none and the first that has one is behind it. -/
theorem isFirst_cons_iff {b : α} :
    IsFirst R (b :: l) a e ↔ a = b ∧ R b e ∨ (∀ e, ¬ R b e) ∧ IsFirst R l a e := by
  constructor
  · rintro ⟨before, after, hl, hbefore, ha⟩
    rcases List.cons_eq_append_iff.1 hl with ⟨rfl, hl⟩ | ⟨before, rfl, rfl⟩
    · cases hl
      exact .inl ⟨rfl, ha⟩
    · obtain ⟨hb, hbefore⟩ := List.forall_mem_cons.1 hbefore
      exact .inr ⟨hb, before, after, rfl, hbefore, ha⟩
  · rintro (⟨rfl, ha⟩ | ⟨hb, before, after, rfl, hbefore, ha⟩)
    · exact ⟨[], l, rfl, List.forall_mem_nil _, ha⟩
    · exact ⟨b :: before, after, rfl, List.forall_mem_cons.2 ⟨hb, hbefore⟩, ha⟩

/-- The first is in the first part, or that part has no error. -/
theorem isFirst_append_iff :
    IsFirst R (l ++ l') a e ↔
      IsFirst R l a e ∨ (∀ b ∈ l, ∀ e, ¬ R b e) ∧ IsFirst R l' a e := by
  induction l with
  | nil => simp [not_isFirst_nil]
  | cons b l ih =>
    rw [List.cons_append, isFirst_cons_iff, isFirst_cons_iff, ih, List.forall_mem_cons]
    tauto

/-- If there is an error somewhere, there is a first one. -/
theorem exists_isFirst_iff : (∃ a e, IsFirst R l a e) ↔ ∃ a ∈ l, ∃ e, R a e := by
  constructor
  · rintro ⟨a, e, before, after, rfl, -, ha⟩
    exact ⟨a, by simp, e, ha⟩
  · rintro ⟨a, hmem, e, ha⟩
    induction l with
    | nil => cases hmem
    | cons b l ih =>
      by_cases hb : ∃ e, R b e
      · obtain ⟨e, he⟩ := hb
        exact ⟨b, e, isFirst_cons_iff.2 (.inl ⟨rfl, he⟩)⟩
      · rcases List.mem_cons.1 hmem with rfl | hmem
        · exact absurd ⟨e, ha⟩ hb
        · obtain ⟨c, e, hc⟩ := ih hmem
          exact ⟨c, e, isFirst_cons_iff.2 (.inr ⟨not_exists.1 hb, hc⟩)⟩

/-- The computation fails where one of a list has an error, with the error of the first that has. -/
def FailsAt (R : α → ε → Prop) (l : List α) (x : Except ε β) : Prop :=
  ∀ e, x = .error e ↔ ∃ a, IsFirst R l a e

theorem failsAt_ok (b : β) : FailsAt R [] (.ok b) := by
  intro e
  simp [not_isFirst_nil]

theorem failsAt_singleton {x : Except ε β} (h : ∀ e, x = .error e ↔ R a e) : FailsAt R [a] x := by
  intro e
  simp [isFirst_cons_iff, not_isFirst_nil, h]

/-- What fails at the elements of a list gives a value exactly if none of them has an error. -/
theorem FailsAt.exists_ok_iff {x : Except ε β} (h : FailsAt R l x) :
    (∃ b, x = .ok b) ↔ ∀ a ∈ l, ∀ e, ¬ R a e := by
  constructor
  · rintro ⟨b, rfl⟩ a ha e he
    obtain ⟨c, e, hc⟩ := exists_isFirst_iff.2 ⟨a, ha, e, he⟩
    cases (h e).2 ⟨c, hc⟩
  · intro hnone
    cases x with
    | ok b => exact ⟨b, rfl⟩
    | error e =>
      obtain ⟨c, hc⟩ := (h e).1 rfl
      obtain ⟨a, ha, e, he⟩ := exists_isFirst_iff.1 ⟨c, e, hc⟩
      exact absurd he (hnone a ha e)

/-- A step fails before what comes after it. -/
theorem FailsAt.bind {x : Except ε β} {f : β → Except ε γ} (hx : FailsAt R l x)
    (hf : ∀ b, x = .ok b → FailsAt R l' (f b)) : FailsAt R (l ++ l') (x >>= f) := by
  intro e
  rw [bind_eq_error_iff, hx e]
  simp only [isFirst_append_iff, exists_or, exists_and_left]
  refine or_congr_right ?_
  -- An error of the second step counts only where the first step has given a value, and that is
  -- where its places have no error.
  rw [← hx.exists_ok_iff]
  constructor
  · rintro ⟨b, hb, he⟩
    exact ⟨⟨b, hb⟩, (hf b hb e).1 he⟩
  · rintro ⟨⟨b, hb⟩, hfirst⟩
    exact ⟨b, hb, (hf b hb e).2 hfirst⟩

/-- A step that gives a value is passed. -/
theorem FailsAt.of_ok {x : Except ε β} {b : β} {f : β → Except ε γ} (hx : x = .ok b)
    (hf : FailsAt R l (f b)) : FailsAt R l (x >>= f) := by
  rw [hx]
  exact hf

/-- A step on each element of a list visits the places of each element in turn. -/
theorem failsAt_mapM {f : γ → Except ε β} {places : γ → List α} {cs : List γ}
    (h : ∀ c ∈ cs, FailsAt R (places c) (f c)) : FailsAt R (cs.flatMap places) (cs.mapM f) := by
  induction cs with
  | nil => exact failsAt_ok []
  | cons c cs ih =>
    obtain ⟨hc, hcs⟩ := List.forall_mem_cons.1 h
    rw [List.mapM_cons, List.flatMap_cons]
    refine hc.bind fun b _ => ?_
    rw [← List.append_nil (cs.flatMap places)]
    exact (ih hcs).bind fun bs _ => failsAt_ok (b :: bs)

end First

end TenantGate
