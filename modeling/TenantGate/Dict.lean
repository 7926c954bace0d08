/-!
# Dictionaries in key order

A `Dict β` holds at most one value for each text key and lists its entries in the order of the
keys, by code point. The order is part of the type, so two dictionaries with the same look-ups are
equal (`Dict.ext_get?`), and a list of entries written out is the same whatever the order of
insertion was.
-/

namespace TenantGate

/-- Entries in strictly increasing order of their keys. -/
def KeyOrdered {β : Type} (entries : List (String × β)) : Prop :=
  entries.Pairwise fun a b => a.1 < b.1

/-- A finite map from texts, listed in key order. -/
structure Dict (β : Type) where
  entries : List (String × β)
  ordered : KeyOrdered entries

namespace Dict

variable {β γ : Type}

/-! ### Operations -/

def empty : Dict β := ⟨[], .nil⟩

instance : Inhabited (Dict β) := ⟨empty⟩

instance [DecidableEq β] : DecidableEq (Dict β) := fun ⟨l, _⟩ ⟨m, _⟩ =>
  if h : l = m then isTrue (by subst h; rfl) else isFalse fun heq => h (congrArg entries heq)

/-- The value of the first entry with key `k`. -/
def lookup (k : String) : List (String × β) → Option β
  | [] => none
  | (k', v) :: r => if k = k' then some v else lookup k r

/-- The value at `k`. -/
def get? (d : Dict β) (k : String) : Option β := lookup k d.entries

/-- Whether `k` has a value. -/
def contains (d : Dict β) (k : String) : Bool := (d.get? k).isSome

/-- The keys, in order. -/
def keys (d : Dict β) : List String := d.entries.map Prod.fst

def size (d : Dict β) : Nat := d.entries.length

def isEmpty (d : Dict β) : Bool := d.entries.isEmpty

/-- Put an entry in its place, over one with the same key. -/
def insertInto (k : String) (v : β) : List (String × β) → List (String × β)
  | [] => [(k, v)]
  | (k', v') :: r =>
    if k < k' then (k, v) :: (k', v') :: r
    else if k = k' then (k, v) :: r
    else (k', v') :: insertInto k v r

theorem mem_insertInto {k : String} {v : β} {a : String × β} {l : List (String × β)}
    (h : a ∈ insertInto k v l) : a = (k, v) ∨ a ∈ l := by
  induction l with
  | nil => simpa [insertInto] using h
  | cons e r ih =>
    rw [insertInto] at h
    split at h
    · simpa using h
    · split at h
      · rcases List.mem_cons.1 h with h | h
        · exact .inl h
        · exact .inr (List.mem_cons_of_mem _ h)
      · rcases List.mem_cons.1 h with h | h
        · exact .inr (h ▸ List.mem_cons_self)
        · exact (ih h).imp id (List.mem_cons_of_mem _)

theorem lt_of_not_lt_of_ne {a b : String} (h : ¬a < b) (hne : a ≠ b) : b < a := by
  rcases Decidable.em (b < a) with h' | h'
  · exact h'
  · exact absurd (Std.le_antisymm (String.not_lt.1 h') (String.not_lt.1 h)) hne

theorem keyOrdered_insertInto {k : String} {v : β} {l : List (String × β)} (h : KeyOrdered l) :
    KeyOrdered (insertInto k v l) := by
  induction l with
  | nil => simp [insertInto, KeyOrdered]
  | cons e r ih =>
    obtain ⟨hhead, hr⟩ := List.pairwise_cons.1 h
    rw [insertInto]
    split
    · next hlt =>
      refine List.pairwise_cons.2 ⟨fun a ha => ?_, h⟩
      rcases List.mem_cons.1 ha with rfl | ha
      · exact hlt
      · exact String.lt_trans hlt (hhead a ha)
    · next hnlt =>
      split
      · next heq => exact List.pairwise_cons.2 ⟨fun a ha => heq ▸ hhead a ha, hr⟩
      · next hne =>
        refine List.pairwise_cons.2 ⟨fun a ha => ?_, ih hr⟩
        rcases mem_insertInto ha with rfl | ha
        · exact lt_of_not_lt_of_ne hnlt hne
        · exact hhead a ha

/-- `d` with the value `v` at `k`. -/
def insert (d : Dict β) (k : String) (v : β) : Dict β :=
  ⟨insertInto k v d.entries, keyOrdered_insertInto d.ordered⟩

/-- `d` without a value at `k`. -/
def erase (d : Dict β) (k : String) : Dict β :=
  ⟨d.entries.filter (·.1 ≠ k), d.ordered.filter _⟩

/-- Insert the entries of a list one after another, so that the last of several with one key
stays. -/
def insertMany (d : Dict β) (l : List (String × β)) : Dict β :=
  l.foldl (fun d (k, v) => d.insert k v) d

/-- The dictionary of a list of entries, the last of several with one key. -/
def ofList (l : List (String × β)) : Dict β := empty.insertMany l

def singleton (k : String) (v : β) : Dict β := empty.insert k v

def mapValues (f : β → γ) (d : Dict β) : Dict γ :=
  ⟨d.entries.map fun e => (e.1, f e.2), by
    have h := d.ordered
    simpa [KeyOrdered, List.pairwise_map] using h⟩

/-! ### Look-ups -/

theorem lookup_insertInto (k : String) (v : β) (j : String) (l : List (String × β)) :
    lookup j (insertInto k v l) = if j = k then some v else lookup j l := by
  induction l with
  | nil => simp [insertInto, lookup]
  | cons e r ih =>
    obtain ⟨k', v'⟩ := e
    rw [insertInto]
    split
    · simp [lookup]
    · split
      · next heq => subst heq; by_cases hj : j = k <;> simp [lookup, hj]
      · next hne =>
        by_cases hj : j = k'
        · subst hj; simp [lookup, Ne.symm hne]
        · simp [lookup, hj, ih]

@[simp] theorem get?_empty (k : String) : (empty : Dict β).get? k = none := rfl

/-- An insertion changes the look-up of its own key only. -/
theorem get?_insert (d : Dict β) (k : String) (v : β) (j : String) :
    (d.insert k v).get? j = if j = k then some v else d.get? j :=
  lookup_insertInto k v j d.entries

@[simp] theorem get?_insert_self (d : Dict β) (k : String) (v : β) :
    (d.insert k v).get? k = some v := by
  simp [get?_insert]

/-! ### Equality -/

theorem lookup_eq_none_of_lt {k : String} {l : List (String × β)} (h : ∀ e ∈ l, k < e.1) :
    lookup k l = none := by
  induction l with
  | nil => rfl
  | cons e r ih =>
    have hne : k ≠ e.1 := fun heq => String.lt_irrefl _ (heq ▸ h e List.mem_cons_self)
    simp [lookup, hne, ih fun e he => h e (List.mem_cons_of_mem _ he)]

theorem lookup_cons_self (k : String) (v : β) (l : List (String × β)) :
    lookup k ((k, v) :: l) = some v :=
  if_pos rfl

/-- No key with a value comes before the first one. -/
theorem not_lt_of_lookup_eq_some {k k' : String} {v v' : β} {l : List (String × β)}
    (hl : KeyOrdered ((k', v') :: l)) (h : lookup k ((k', v') :: l) = some v) : ¬ k < k' := by
  intro hlt
  have hnone : lookup k ((k', v') :: l) = none := by
    apply lookup_eq_none_of_lt
    intro e he
    rcases List.mem_cons.1 he with rfl | he
    · exact hlt
    · exact String.lt_trans hlt ((List.pairwise_cons.1 hl).1 e he)
  rw [h] at hnone
  cases hnone

theorem eq_of_lookup_eq {l m : List (String × β)} (hl : KeyOrdered l) (hm : KeyOrdered m)
    (h : ∀ k, lookup k l = lookup k m) : l = m := by
  induction l generalizing m with
  | nil =>
    cases m with
    | nil => rfl
    | cons e r => simpa [lookup] using h e.1
  | cons e r ih =>
    obtain ⟨k, v⟩ := e
    obtain ⟨hk, hr⟩ := List.pairwise_cons.1 hl
    cases m with
    | nil => simpa [lookup] using h k
    | cons e' r' =>
      obtain ⟨k', v'⟩ := e'
      obtain ⟨hk', hr'⟩ := List.pairwise_cons.1 hm
      have heq : k = k' := by
        have hle : ¬ k < k' := not_lt_of_lookup_eq_some hm ((h k).symm.trans (lookup_cons_self ..))
        have hge : ¬ k' < k := not_lt_of_lookup_eq_some hl ((h k').trans (lookup_cons_self ..))
        exact Decidable.byContradiction fun hne => hge (lt_of_not_lt_of_ne hle hne)
      subst heq
      have hv : v = v' := by simpa [lookup] using h k
      subst hv
      refine congrArg _ (ih hr hr' fun j => ?_)
      by_cases hj : j = k
      · subst hj
        rw [lookup_eq_none_of_lt hk, lookup_eq_none_of_lt hk']
      · simpa [lookup, hj] using h j

/-- Two dictionaries with the same look-ups are the same. -/
theorem ext_get? {d e : Dict β} (h : ∀ k, d.get? k = e.get? k) : d = e := by
  obtain ⟨l, hl⟩ := d
  obtain ⟨m, hm⟩ := e
  have heq : l = m := eq_of_lookup_eq hl hm h
  subst heq
  rfl

end Dict
end TenantGate
