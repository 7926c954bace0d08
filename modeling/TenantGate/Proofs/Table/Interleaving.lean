import Mathlib.Data.List.Induction
import Mathlib.Logic.Function.Basic
import TenantGate.Proofs.Dict
import TenantGate.Table.Cache
/-!
# The table cache under interleaving

Several threads share a cache. What a thread does with it is made of atomic steps (`CacheStep`), one
for each operation but two for a look-up that sees an expired entry; between the two, other threads
may do what they like, and their clocks need not agree.

Which entry there is after any steps is said by `entry_afterAll?`: that of an insertion after which
no step took it away. All that threads can rely on follows from it (`interleaved_lookups`), and so
does what a look-up gives when one call is made after the other and the instants do not go back.
-/

namespace TenantGate

/-! ### Steps

The steps are those that other threads can see: a look-up reads the entry first and drops it later,
each under the lock. `Displaces` says which steps end an entry, and `entry_after?` that nothing else
does. -/

/-- The atomic steps of what is done with a cache. A look-up first sees the table of an entry that
has not expired, or none; and if there was an entry that had expired, it drops it. -/
inductive CacheStep where
  | look (name : String) (now : Instant) (seen : Option Table)
  | drop (name : String) (now : Instant)
  | insert (name : String) (t : Table) (now : Instant)
  | forget (name : String)
  | clear

/-- The step takes away an entry of this name and end, or puts another one in its place. -/
def CacheStep.Displaces (name : String) (expires : Instant) : CacheStep → Prop
  | look _ _ _ => False
  | drop other now => other = name ∧ expires ≤ now
  | insert other _ _ => other = name
  | forget other => other = name
  | clear => True

namespace TableCache

/-- The entry that an insertion makes. -/
def entryFrom (lifetime : Nat) (t : Table) (now : Instant) : CachedTable :=
  ⟨t, now + lifetime⟩

/-- The cache after a step. An insertion whose entry would end beyond the clock is not made. -/
def after? (c : TableCache) : CacheStep → Option TableCache
  | .look _ _ _ => some c
  | .drop name now => some (c.dropExpired name now)
  | .insert name t now => c.insert? name t now
  | .forget name => some (c.forget name)
  | .clear => some c.clear

/-- The cache after any number of steps. -/
def afterAll? (c : TableCache) (steps : List CacheStep) : Option TableCache :=
  steps.foldlM after? c

variable {c c' : TableCache} {name n : String} {now : Instant} {t : Table} {e : CachedTable}
  {lifetime : Nat} {x : CacheStep} {steps : List CacheStep}

theorem entry_forget : entry? (c.forget name) n = if n = name then none else c.entry? n :=
  Dict.get?_erase _ _ _

/-- An entry that has not expired is not dropped, nor is one of another name. -/
theorem entry_dropExpired :
    entry? (c.dropExpired name now) n = some e ↔
      c.entry? n = some e ∧ ¬ (name = n ∧ e.expires ≤ now) := by
  unfold dropExpired
  cases hentry : c.entry? name with
  | none =>
    dsimp only
    refine (and_iff_left_of_imp fun he => ?_).symm
    rintro ⟨rfl, -⟩
    rw [hentry] at he
    cases he
  | some d =>
    dsimp only
    split
    next hexpired =>
      show entry? (c.forget name) n = some e ↔ _
      rw [entry_forget]
      split
      next heq =>
        subst heq
        simp only [hentry, reduceCtorEq, Option.some.injEq, true_and, false_iff, not_and, not_not]
        rintro rfl
        exact hexpired
      next hne => simp [Ne.symm hne]
    next hlive =>
      refine (and_iff_left_of_imp fun he => ?_).symm
      rintro ⟨rfl, hexpired⟩
      obtain rfl := Option.some.inj (hentry.symm.trans he)
      exact hlive hexpired

/-- An insertion that is made puts its entry in place of the one before. -/
theorem insert?_eq_some (h : c.insert? name t now = some c') :
    c' = { c with entries := c.entries.insert name (entryFrom c.lifetime t now) } := by
  obtain ⟨expires, hexpires, rfl⟩ := Option.map_eq_some_iff.1 h
  obtain ⟨-, hexpires⟩ := Option.ite_none_right_eq_some.1 hexpires
  rw [← Option.some.inj hexpires]
  rfl

/-- No step changes the lifetime. -/
theorem lifetime_after? (h : c.after? x = some c') : c'.lifetime = c.lifetime := by
  cases x with
  | look | forget | clear =>
    cases h
    rfl
  | drop name now =>
    cases h
    show (c.dropExpired name now).lifetime = c.lifetime
    unfold dropExpired
    split
    · split <;> rfl
    · rfl
  | insert name t now => rw [insert?_eq_some h]

/-- What a step does to the entry of a name: an insertion makes it, and otherwise it is the one that
was there, unless the step took it away. -/
theorem entry_after? (h : c.after? x = some c') :
    c'.entry? name = some e ↔
      (∃ t now, x = .insert name t now ∧ e = entryFrom c.lifetime t now) ∨
        c.entry? name = some e ∧ ¬ x.Displaces name e.expires := by
  cases x with
  | look n now seen =>
    cases h
    simp [CacheStep.Displaces]
  | drop n now =>
    cases h
    rw [entry_dropExpired]
    simp [CacheStep.Displaces]
  | insert n t now =>
    rw [insert?_eq_some h, entry?, Dict.get?_insert]
    have hmade : (∃ t' now', CacheStep.insert n t now = .insert name t' now' ∧
        e = entryFrom c.lifetime t' now') ↔ n = name ∧ e = entryFrom c.lifetime t now := by
      simp only [CacheStep.insert.injEq, and_assoc, exists_and_left, exists_eq_left']
    rw [hmade]
    -- the inserted entry is the only one under its own name, and changes nothing under others
    by_cases heq : name = n
    · subst heq
      simp [CacheStep.Displaces, eq_comm]
    · simp [CacheStep.Displaces, heq, Ne.symm heq, entry?]
  | forget n =>
    cases h
    rw [entry_forget]
    simp [CacheStep.Displaces, eq_comm, and_comm]
  | clear =>
    cases h
    simp [CacheStep.Displaces, clear, entry?]

/-! ### Runs

Which entry there is depends on the last insertion only, and on what came after it. The induction
adds a step at the end of the run. -/

/-- The entry is that of an insertion after which no step took it away. -/
def StandsAfter (lifetime : Nat) (steps : List CacheStep) (name : String) (e : CachedTable) :
    Prop :=
  ∃ before t now after, steps = before ++ .insert name t now :: after ∧
    e = entryFrom lifetime t now ∧ ∀ x ∈ after, ¬ x.Displaces name e.expires

/-- One more step: it makes the entry, or leaves the one that stood. -/
theorem standsAfter_concat :
    StandsAfter lifetime (steps ++ [x]) name e ↔
      (∃ t now, x = .insert name t now ∧ e = entryFrom lifetime t now) ∨
        StandsAfter lifetime steps name e ∧ ¬ x.Displaces name e.expires := by
  constructor
  · rintro ⟨before, t, now, after, hsteps, he, hafter⟩
    -- the insertion is the last step, or stands before it
    rcases List.eq_nil_or_concat after with rfl | ⟨after, y, rfl⟩
    · obtain ⟨-, rfl⟩ := List.append_singleton_inj.1 hsteps
      exact .inl ⟨t, now, rfl, he⟩
    · rw [List.concat_eq_append, ← List.cons_append, ← List.append_assoc] at hsteps
      obtain ⟨rfl, rfl⟩ := List.append_singleton_inj.1 hsteps
      rw [List.concat_eq_append, List.forall_mem_append, List.forall_mem_singleton] at hafter
      exact .inr ⟨⟨before, t, now, after, rfl, he, hafter.1⟩, hafter.2⟩
  · rintro (⟨t, now, rfl, he⟩ | ⟨⟨before, t, now, after, rfl, he, hafter⟩, hx⟩)
    · exact ⟨steps, t, now, [], rfl, he, List.forall_mem_nil _⟩
    · refine ⟨before, t, now, after ++ [x], by simp, he, ?_⟩
      rw [List.forall_mem_append, List.forall_mem_singleton]
      exact ⟨hafter, hx⟩

theorem not_standsAfter_nil : ¬ StandsAfter lifetime [] name e := by
  rintro ⟨before, t, now, after, hsteps, -⟩
  simp at hsteps

/-- One more step is taken after all the others. -/
theorem afterAll?_concat :
    c.afterAll? (steps ++ [x]) = (c.afterAll? steps).bind (·.after? x) := by
  simp only [afterAll?, List.foldlM_append, List.foldlM_cons, List.foldlM_nil, bind_pure]
  rfl

/-- After any steps from an empty cache, the entries are those of insertions that were not taken
away. -/
theorem entry_afterAll? (h : afterAll? { lifetime } steps = some c) :
    c.lifetime = lifetime ∧
      ∀ name e, c.entry? name = some e ↔ StandsAfter lifetime steps name e := by
  induction steps using List.reverseRecOn generalizing c with
  | nil =>
    cases h
    exact ⟨rfl, fun name e => iff_of_false nofun not_standsAfter_nil⟩
  | append_singleton steps x ih =>
    rw [afterAll?_concat] at h
    obtain ⟨d, hd, hx⟩ := Option.bind_eq_some_iff.1 h
    obtain ⟨hlifetime, hentry⟩ := ih hd
    refine ⟨(lifetime_after? hx).trans hlifetime, fun name e => ?_⟩
    rw [entry_after? hx, standsAfter_concat, hentry, hlifetime]

/-! ### Look-ups

A look-up in one call, in terms of the entry: what it gives, and what it leaves. -/

/-- A look-up gives the table of an entry that has not expired. -/
theorem fst_lookup_eq_some :
    (c.lookup name now).1 = some t ↔
      ∃ e, c.entry? name = some e ∧ now < e.expires ∧ e.table = t := by
  unfold lookup
  cases hentry : c.entry? name with
  | none => simp
  | some e =>
    by_cases hnow : now < e.expires <;> simp [hnow]

/-- Whatever a look-up sees, it leaves the cache without the entry if that has expired. -/
theorem snd_lookup : (c.lookup name now).2 = c.dropExpired name now := by
  unfold lookup dropExpired
  cases hentry : c.entry? name with
  | none => rfl
  | some e =>
    by_cases hnow : now < e.expires
    · simp [hnow, Int.not_le.2 hnow]
    · simp [hnow]

end TableCache

/-! ### Threads

Any number of threads share the cache, each with the look-up it is in the midst of. A run is any
order of their steps that the rules of `Step` allow; nothing is assumed of their clocks. -/

/-- A cache that threads share, and for each thread the look-up that it is in the midst of: the name
and the instant for which it has seen an expired entry. -/
structure SharedCache (ι : Type) where
  cache : TableCache
  pending : ι → Option (String × Instant)

namespace SharedCache

variable {ι : Type} [DecidableEq ι]

/-- The atomic steps of threads. A thread in the midst of a look-up can only go on with it. -/
inductive Step : SharedCache ι → ι × CacheStep → SharedCache ι → Prop
  | hit {s : SharedCache ι} {i : ι} {name : String} {now : Instant} {e : CachedTable}
      (hidle : s.pending i = none) (hentry : s.cache.entry? name = some e)
      (hlive : now < e.expires) : Step s (i, .look name now (some e.table)) s
  | miss {s : SharedCache ι} {i : ι} {name : String} {now : Instant} (hidle : s.pending i = none)
      (hentry : s.cache.entry? name = none) : Step s (i, .look name now none) s
  | expired {s : SharedCache ι} {i : ι} {name : String} {now : Instant} {e : CachedTable}
      (hidle : s.pending i = none) (hentry : s.cache.entry? name = some e)
      (hexpired : e.expires ≤ now) :
      Step s (i, .look name now none)
        { s with pending := Function.update s.pending i (some (name, now)) }
  | drop {s : SharedCache ι} {i : ι} {name : String} {now : Instant}
      (hpending : s.pending i = some (name, now)) :
      Step s (i, .drop name now)
        ⟨s.cache.dropExpired name now, Function.update s.pending i none⟩
  | insert {s : SharedCache ι} {i : ι} {name : String} {t : Table} {now : Instant} {c : TableCache}
      (hidle : s.pending i = none) (hinsert : s.cache.insert? name t now = some c) :
      Step s (i, .insert name t now) { s with cache := c }
  | forget {s : SharedCache ι} {i : ι} {name : String} (hidle : s.pending i = none) :
      Step s (i, .forget name) { s with cache := s.cache.forget name }
  | clear {s : SharedCache ι} {i : ι} (hidle : s.pending i = none) :
      Step s (i, .clear) { s with cache := s.cache.clear }

/-- The steps that threads have made since the cache was new, in their order. -/
inductive Run (lifetime : Nat) : List (ι × CacheStep) → SharedCache ι → Prop
  | start : Run lifetime [] ⟨{ lifetime }, fun _ => none⟩
  | step {steps : List (ι × CacheStep)} {s s' : SharedCache ι} {x : ι × CacheStep}
      (h : Run lifetime steps s) (hstep : Step s x s') : Run lifetime (steps ++ [x]) s'

variable {lifetime : Nat} {steps : List (ι × CacheStep)} {s s' : SharedCache ι} {i : ι}
  {x : ι × CacheStep} {name : String} {now : Instant} {t : Table} {e : CachedTable}

/-- A step of a thread is that step of the cache. -/
theorem Step.after? (h : Step s x s') : s.cache.after? x.2 = some s'.cache := by
  cases h with
  | insert _ hinsert => exact hinsert
  | _ => rfl

/-- The steps of all threads, in their order, are steps of one cache. -/
theorem Run.afterAll? (h : Run lifetime steps s) :
    TableCache.afterAll? { lifetime } (steps.map Prod.snd) = some s.cache := by
  induction h with
  | start => rfl
  | step _ hstep ih =>
    rw [List.map_append, List.map_singleton, TableCache.afterAll?_concat, ih, Option.bind_some]
    exact hstep.after?

/-- The entries of a shared cache are those of insertions that were not taken away. -/
theorem Run.entry_iff (h : Run lifetime steps s) :
    s.cache.entry? name = some e ↔
      ∃ before i t now after, steps = before ++ (i, .insert name t now) :: after ∧
        e = TableCache.entryFrom lifetime t now ∧ ∀ x ∈ after, ¬ x.2.Displaces name e.expires := by
  rw [(TableCache.entry_afterAll? h.afterAll?).2]
  constructor
  · rintro ⟨before, t, now, after, hsteps, he, hafter⟩
    obtain ⟨before, rest, rfl, rfl, hrest⟩ := List.map_eq_append_iff.1 hsteps
    obtain ⟨⟨i, x⟩, after, rfl, hx, rfl⟩ := List.map_eq_cons_iff.1 hrest
    obtain rfl : x = .insert name t now := hx
    exact ⟨before, i, t, now, after, rfl, he, fun y hy => hafter _ (List.mem_map_of_mem hy)⟩
  · rintro ⟨before, i, t, now, after, rfl, he, hafter⟩
    refine ⟨before.map Prod.snd, t, now, after.map Prod.snd, by simp, he, fun x hx => ?_⟩
    obtain ⟨y, hy, rfl⟩ := List.mem_map.1 hx
    exact hafter y hy

/-- A thread is in the midst of a look-up if it has just begun it, or waits while another one makes
a step. -/
theorem Step.pending_cases (h : Step s x s') (hpending : s'.pending i = some (name, now)) :
    x = (i, .look name now none) ∨ s.pending i = some (name, now) ∧ x.1 ≠ i := by
  have hwaits : ∀ {j : ι}, s.pending j = none → s.pending i = some (name, now) →
      s.pending i = some (name, now) ∧ j ≠ i := by
    intro j hj hi
    refine ⟨hi, ?_⟩
    rintro rfl
    rw [hj] at hi
    cases hi
  -- A thread that is not in the midst of a look-up cannot be the one that waits.
  cases h with
  | hit hidle => exact .inr (hwaits hidle hpending)
  | miss hidle => exact .inr (hwaits hidle hpending)
  | insert hidle => exact .inr (hwaits hidle hpending)
  | forget hidle => exact .inr (hwaits hidle hpending)
  | clear hidle => exact .inr (hwaits hidle hpending)
  | expired hidle =>
    dsimp only at hpending
    rw [Function.update_apply] at hpending
    split at hpending
    next heq =>
      cases hpending
      exact .inl (by rw [heq])
    next => exact .inr (hwaits hidle hpending)
  | drop =>
    dsimp only at hpending
    rw [Function.update_apply] at hpending
    split at hpending
    next => cases hpending
    next hne => exact .inr ⟨hpending, Ne.symm hne⟩

/-- A thread in the midst of a look-up has begun it, and has made no step since. -/
theorem Run.pending (h : Run lifetime steps s) (hpending : s.pending i = some (name, now)) :
    ∃ before after, steps = before ++ (i, .look name now none) :: after ∧ ∀ x ∈ after, x.1 ≠ i := by
  induction h with
  | start => cases hpending
  | @step steps s s' x _ hstep ih =>
    rcases hstep.pending_cases hpending with rfl | ⟨hbefore, hx⟩
    · exact ⟨steps, [], rfl, List.forall_mem_nil _⟩
    · obtain ⟨before, after, rfl, hafter⟩ := ih hbefore
      refine ⟨before, after ++ [x], by simp, ?_⟩
      rw [List.forall_mem_append, List.forall_mem_singleton]
      exact ⟨hafter, hx⟩

/-- A look-up is its two steps with nothing in between. -/
theorem Step.lookup_eq {seen : Option Table} (h : Step s (i, .look name now seen) s') :
    s.cache.lookup name now = (seen, s'.cache.dropExpired name now) := by
  have hcache : s'.cache = s.cache := (Option.some.inj h.after?).symm
  rw [hcache, ← TableCache.snd_lookup]
  refine Prod.ext ?_ rfl
  show (s.cache.lookup name now).1 = seen
  cases h with
  | hit _ hentry hlive => exact TableCache.fst_lookup_eq_some.2 ⟨_, hentry, hlive, rfl⟩
  | miss _ hentry => rw [TableCache.lookup, hentry]
  | expired _ hentry hexpired =>
    rw [TableCache.lookup, hentry]
    exact congrArg Prod.fst (if_neg (Int.not_lt.2 hexpired))

end SharedCache

/-! ### One call after the other

Without interleaving, the two steps of a look-up come together. If moreover the clock does not go
back, a look-up drops no entry that a later one could have seen, so that look-ups do not count among
the calls that take a table away. -/

/-- What can be done with a cache. -/
inductive CacheCall where
  | lookup (name : String) (now : Instant)
  | insert (name : String) (t : Table) (now : Instant)
  | forget (name : String)
  | clear

namespace CacheCall

/-- The instant at which a call reads the clock. -/
def instant? : CacheCall → Option Instant
  | lookup _ now | insert _ _ now => some now
  | forget _ | clear => none

/-- The call is about this name and no look-up, or about all names. -/
def Resets (name : String) : CacheCall → Prop
  | lookup _ _ => False
  | insert other _ _ | forget other => other = name
  | clear => True

/-- The step by which a call changes the cache. -/
def step : CacheCall → CacheStep
  | lookup name now => .drop name now
  | insert name t now => .insert name t now
  | forget name => .forget name
  | clear => .clear

/-- Only an insertion changes the cache like an insertion. -/
theorem step_eq_insert {x : CacheCall} {name : String} {t : Table} {now : Instant} :
    x.step = .insert name t now ↔ x = .insert name t now := by
  cases x <;> simp [step]

/-- A call before the end of an entry takes it away only if it is about its name or about all names.
-/
theorem displaces_step {x : CacheCall} {name : String} {expires : Instant}
    (h : ∀ now ∈ x.instant?, now < expires) :
    x.step.Displaces name expires ↔ x.Resets name := by
  cases x with
  | lookup other now =>
    have hnow : now < expires := h now rfl
    simp [step, CacheStep.Displaces, Resets, hnow]
  | _ => rfl

end CacheCall

namespace TableCache

/-- The cache after a call; none if an insertion would end beyond the clock. -/
def called? (c : TableCache) : CacheCall → Option TableCache
  | .lookup name now => some (c.lookup name now).2
  | .insert name t now => c.insert? name t now
  | .forget name => some (c.forget name)
  | .clear => some c.clear

/-- The cache after any number of calls. -/
def calledAll? (c : TableCache) (calls : List CacheCall) : Option TableCache :=
  calls.foldlM called? c

variable {c : TableCache} {calls : List CacheCall} {name : String} {now : Instant} {t : Table}
  {lifetime : Nat}

/-- A call changes the cache by its step. -/
theorem called?_eq (c : TableCache) (x : CacheCall) : c.called? x = c.after? x.step := by
  cases x with
  | lookup name now => exact congrArg some snd_lookup
  | _ => rfl

/-- Calls change the cache by their steps. -/
theorem calledAll?_eq (c : TableCache) (calls : List CacheCall) :
    c.calledAll? calls = c.afterAll? (calls.map CacheCall.step) := by
  have hcall : called? = fun c x => c.after? x.step := by
    funext c x
    exact called?_eq c x
  rw [calledAll?, afterAll?, List.foldlM_map, hcall]

/-- If the instants do not go back, a look-up gives the table that was inserted last, unless that
was forgotten or is as old as the lifetime. -/
theorem fst_lookup_iff_of_calledAll? (h : calledAll? { lifetime } calls = some c)
    (hclock : (calls.filterMap CacheCall.instant? ++ [now]).Pairwise (· ≤ ·)) :
    (c.lookup name now).1 = some t ↔
      ∃ before since after, calls = before ++ .insert name t since :: after ∧
        (∀ x ∈ after, ¬ x.Resets name) ∧ now < since + lifetime := by
  have hlast : ∀ x ∈ calls, ∀ since ∈ x.instant?, since ≤ now := by
    intro x hx since hsince
    have hmem : since ∈ calls.filterMap CacheCall.instant? := List.mem_filterMap.2 ⟨x, hx, hsince⟩
    exact (List.pairwise_append.1 hclock).2.2 since hmem now List.mem_cons_self
  -- no look-up before now drops an entry that has not expired by now
  have hreset : ∀ {since : Instant} {t : Table}, now < since + lifetime →
      ∀ x ∈ calls,
        (x.step.Displaces name (entryFrom lifetime t since).expires ↔ x.Resets name) := by
    intro since t hnow x hx
    refine CacheCall.displaces_step fun instant hinstant => ?_
    exact Int.lt_of_le_of_lt (hlast x hx instant hinstant) hnow
  rw [calledAll?_eq] at h
  rw [fst_lookup_eq_some]
  constructor
  · rintro ⟨e, hentry, hnow, rfl⟩
    obtain ⟨before, t, since, after, hsteps, rfl, hafter⟩ := ((entry_afterAll? h).2 _ _).1 hentry
    obtain ⟨before, rest, rfl, rfl, hrest⟩ := List.map_eq_append_iff.1 hsteps
    obtain ⟨x, after, rfl, hx, rfl⟩ := List.map_eq_cons_iff.1 hrest
    rw [CacheCall.step_eq_insert.1 hx] at hreset ⊢
    refine ⟨before, since, after, rfl, fun y hy => ?_, hnow⟩
    rw [← hreset (t := t) hnow y (by simp [hy])]
    exact hafter _ (List.mem_map_of_mem hy)
  · rintro ⟨before, since, after, rfl, hafter, hnow⟩
    refine ⟨entryFrom lifetime t since, ((entry_afterAll? h).2 _ _).2 ?_, hnow, rfl⟩
    refine ⟨before.map CacheCall.step, t, since, after.map CacheCall.step, by simp [CacheCall.step],
      rfl, fun x hx => ?_⟩
    obtain ⟨y, hy, rfl⟩ := List.mem_map.1 hx
    rw [hreset hnow y (by simp [hy])]
    exact hafter y hy

end TableCache

/-! ### Both

Runs with several threads and calls one after the other, side by side. -/

/-- What threads that share a cache can rely on, whatever the order of their steps and whatever
their clocks show. A table that is seen is the one inserted last under its name, before the end of
its lifetime. A look-up that goes on to drop an entry is one that the thread has begun with the same
instant, and it drops no entry that has not expired by then, whoever made it. An entry stays until a
step displaces it. And if one call is made after the other and the instants do not go back, a
look-up gives exactly the last table inserted, if it was not forgotten and is younger than the
lifetime. -/
theorem interleaved_lookups {ι : Type} [DecidableEq ι] (lifetime : Nat) :
    (∀ (steps : List (ι × CacheStep)) (s : SharedCache ι), s.Run lifetime steps →
      (∀ i name now t s', s.Step (i, .look name now (some t)) s' →
        ∃ before j since after, steps = before ++ (j, .insert name t since) :: after ∧
          (∀ x ∈ after, ¬ x.2.Displaces name (since + lifetime)) ∧
          now < since + lifetime) ∧
      (∀ i name now s', s.Step (i, .drop name now) s' →
        (∃ before after, steps = before ++ (i, .look name now none) :: after ∧
          ∀ x ∈ after, x.1 ≠ i) ∧
        ∀ n e, s.cache.entry? n = some e →
          s'.cache.entry? n = some e ∨ n = name ∧ e.expires ≤ now) ∧
      ∀ before i name t since after, steps = before ++ (i, .insert name t since) :: after →
        (∀ x ∈ after, ¬ x.2.Displaces name (since + lifetime)) →
        s.cache.entry? name = some ⟨t, since + lifetime⟩) ∧
    ∀ (calls : List CacheCall) (c : TableCache) name now t,
      TableCache.calledAll? { lifetime } calls = some c →
      (calls.filterMap CacheCall.instant? ++ [now]).Pairwise (· ≤ ·) →
      ((c.lookup name now).1 = some t ↔
        ∃ before since after, calls = before ++ .insert name t since :: after ∧
          (∀ x ∈ after, ¬ x.Resets name) ∧ now < since + lifetime) := by
  refine ⟨fun steps s hrun => ⟨?_, ?_, ?_⟩, ?_⟩
  · intro i name now t s' hstep
    have hseen : (s.cache.lookup name now).1 = some t := congrArg Prod.fst hstep.lookup_eq
    obtain ⟨e, hentry, hnow, rfl⟩ := TableCache.fst_lookup_eq_some.1 hseen
    obtain ⟨before, j, t, since, after, hsteps, rfl, hafter⟩ := hrun.entry_iff.1 hentry
    exact ⟨before, j, since, after, hsteps, hafter, hnow⟩
  · intro i name now s' hstep
    cases hstep with
    | drop hpending =>
      refine ⟨hrun.pending hpending, fun n e hentry => ?_⟩
      by_cases hexpired : name = n ∧ e.expires ≤ now
      · exact .inr ⟨hexpired.1.symm, hexpired.2⟩
      · exact .inl (TableCache.entry_dropExpired.2 ⟨hentry, hexpired⟩)
  · intro before i name t since after hsteps hafter
    exact hrun.entry_iff.2 ⟨before, i, t, since, after, hsteps, rfl, hafter⟩
  · intro calls c name now t hcalls hclock
    exact TableCache.fst_lookup_iff_of_calledAll? hcalls hclock

/-- Entries live for half a second. Between the two steps of a look-up another thread renews the
entry, and the look-up leaves it. -/
theorem interleaved_lookups_renewed :
    let lifetime : Nat := 500000000
    let later : Instant := lifetime
    let notes : Table :=
      { schema := "public", name := "notes", primaryKey := "id", columns := ["id", "company_id"] }
    let renewed : Table := { notes with columns := ["id", "title", "company_id"] }
    let steps : List (Bool × CacheStep) :=
      [(false, .insert "notes" notes 0), (true, .look "notes" later none),
        (false, .insert "notes" renewed later)]
    let calls : List CacheCall := [.insert "notes" notes 0, .lookup "units" 5, .forget "units"]
    (∃ s s', SharedCache.Run lifetime steps s ∧ s.Step (true, .drop "notes" later) s' ∧
      s'.cache.entry? "notes" = some ⟨renewed, later + later⟩) ∧
    ∃ c, TableCache.calledAll? { lifetime } calls = some c ∧
      (c.lookup "notes" (later - 1)).1 = some notes := by
  intro lifetime later notes renewed steps calls
  let first : TableCache := ⟨lifetime, .singleton "notes" ⟨notes, later⟩⟩
  let last : TableCache := ⟨lifetime, .singleton "notes" ⟨renewed, later + later⟩⟩
  let waiting : Bool → Option (String × Instant) :=
    Function.update (fun _ => none) true (some ("notes", later))
  have hrun : SharedCache.Run lifetime steps ⟨last, waiting⟩ := by
    have hinsert : SharedCache.Step (ι := Bool) ⟨{ lifetime }, fun _ => none⟩
        (false, .insert "notes" notes 0) ⟨first, fun _ => none⟩ := .insert rfl (by decide +kernel)
    have hlook : SharedCache.Step (ι := Bool) ⟨first, fun _ => none⟩
        (true, .look "notes" later none) ⟨first, waiting⟩ :=
      .expired rfl (show first.entry? "notes" = some ⟨notes, later⟩ by decide +kernel)
        (Int.le_refl later)
    have hrenew : SharedCache.Step (ι := Bool) ⟨first, waiting⟩
        (false, .insert "notes" renewed later) ⟨last, waiting⟩ := .insert rfl (by decide +kernel)
    exact ((SharedCache.Run.start.step hinsert).step hlook).step hrenew
  obtain ⟨hthreads, hcalls⟩ := interleaved_lookups (ι := Bool) lifetime
  obtain ⟨-, hdrops, -⟩ := hthreads steps _ hrun
  constructor
  · have hdrop : SharedCache.Step ⟨last, waiting⟩ (true, .drop "notes" later)
        ⟨last.dropExpired "notes" later, Function.update waiting true none⟩ := .drop rfl
    refine ⟨_, _, hrun, hdrop, ?_⟩
    have hentry : last.entry? "notes" = some ⟨renewed, later + later⟩ := by decide +kernel
    apply ((hdrops true "notes" later _ hdrop).2 "notes" _ hentry).resolve_right
    decide
  · refine ⟨(first.lookup "units" 5).2.forget "units", by decide +kernel, ?_⟩
    apply (hcalls calls _ "notes" (later - 1) notes (by decide +kernel) (by decide)).2
    exact ⟨[], 0, _, rfl, by simp [CacheCall.Resets], by decide⟩

end TenantGate
