import TenantGate.Dict
/-!
# Entries of dictionaries

The list of entries of a dictionary and its look-ups say the same (`mem_entries_iff`), and a key has
at most one entry (`filter_entries_eq`).
-/

namespace TenantGate.Dict

variable {β : Type}

/-- In a list with increasing keys a look-up gives what the list has. -/
theorem lookup_eq_some_iff {k : String} {v : β} {l : List (String × β)} (hl : KeyOrdered l) :
    lookup k l = some v ↔ (k, v) ∈ l := by
  induction l with
  | nil => simp [lookup]
  | cons e r ih =>
    obtain ⟨k', v'⟩ := e
    obtain ⟨hhead, hr⟩ := List.pairwise_cons.1 hl
    rw [lookup, List.mem_cons, Prod.mk.injEq]
    split
    · next heq =>
      subst heq
      have hnot : (k, v) ∉ r := fun hmem => String.lt_irrefl k (hhead _ hmem)
      simp [hnot, eq_comm]
    · next hne => simp [hne, ih hr]

/-- The entries are the look-ups that give something. -/
theorem mem_entries_iff {d : Dict β} {k : String} {v : β} :
    (k, v) ∈ d.entries ↔ d.get? k = some v :=
  (lookup_eq_some_iff d.ordered).symm

/-- Increasing keys stand once each. -/
theorem filter_eq_singleton {k : String} {v : β} {l : List (String × β)} (hl : KeyOrdered l)
    (h : (k, v) ∈ l) : l.filter (fun e => e.1 = k) = [(k, v)] := by
  induction l with
  | nil => cases h
  | cons e r ih =>
    obtain ⟨hhead, hr⟩ := List.pairwise_cons.1 hl
    rcases List.mem_cons.1 h with rfl | h
    -- the keys increase, so the key stands neither after itself nor before a smaller one
    · have hnone : r.filter (fun e => e.1 = k) = [] := by
        refine List.filter_eq_nil_iff.2 fun e he heq => ?_
        have hlt : k < e.1 := hhead e he
        rw [of_decide_eq_true heq] at hlt
        exact String.lt_irrefl _ hlt
      rw [List.filter_cons_of_pos (by simp), hnone]
    · have hne : e.1 ≠ k := fun heq => by
        have hlt : e.1 < k := hhead _ h
        rw [heq] at hlt
        exact String.lt_irrefl _ hlt
      rw [List.filter_cons_of_neg (by simpa using hne), ih hr h]

/-- A key that has a value has one entry. -/
theorem filter_entries_eq {d : Dict β} {k : String} {v : β} (h : d.get? k = some v) :
    d.entries.filter (fun e => e.1 = k) = [(k, v)] :=
  filter_eq_singleton d.ordered (mem_entries_iff.2 h)

/-! ### Removal

A key that is removed is gone, and no other key is touched. -/

/-- What is left after a removal was there before it. -/
theorem get?_of_get?_erase {d : Dict β} {k j : String} {v : β} (h : (d.erase k).get? j = some v) :
    d.get? j = some v :=
  mem_entries_iff.1 (List.mem_filter.1 (mem_entries_iff.2 h)).1

/-- After a removal only the look-up of that key is another one. -/
theorem get?_erase (d : Dict β) (k j : String) :
    (d.erase k).get? j = if j = k then none else d.get? j := by
  apply Option.ext
  intro v
  rw [← mem_entries_iff, erase, List.mem_filter, mem_entries_iff]
  by_cases h : j = k <;> simp [h]

/-! ### Lists of entries

A list is put in from left to right, so of two entries with one key the later one stays. Where the
keys differ, or where entries with one key agree, the order does not matter. -/

theorem get?_insertMany_of_not_mem {l : List (String × β)} {k : String}
    (h : k ∉ l.map Prod.fst) (d : Dict β) : (d.insertMany l).get? k = d.get? k := by
  induction l generalizing d with
  | nil => rfl
  | cons e l ih =>
    rw [List.map_cons, List.mem_cons, not_or] at h
    show ((d.insert e.1 e.2).insertMany l).get? k = d.get? k
    rw [ih h.2, get?_insert, if_neg h.1]

/-- Of entries with different keys each is found. -/
theorem get?_insertMany_of_mem {l : List (String × β)} (hl : (l.map Prod.fst).Nodup) {k : String}
    {v : β} (h : (k, v) ∈ l) (d : Dict β) : (d.insertMany l).get? k = some v := by
  -- The induction is on the list: what comes after the entry has other keys, and leaves it.
  induction l generalizing d with
  | nil => cases h
  | cons e l ih =>
    obtain ⟨hnew, hl⟩ := List.nodup_cons.1 hl
    show ((d.insert e.1 e.2).insertMany l).get? k = some v
    rcases List.mem_cons.1 h with rfl | h
    · rw [get?_insertMany_of_not_mem hnew, get?_insert_self]
    · exact ih hl h _

/-- A key of which all entries say the same has that value. -/
theorem get?_insertMany_of_forall {l : List (String × β)} {k : String} {v : β}
    (h : ∀ e ∈ l, e.1 = k → e.2 = v) {d : Dict β} (hv : d.get? k = some v ∨ (k, v) ∈ l) :
    (d.insertMany l).get? k = some v := by
  induction l generalizing d with
  | nil => exact hv.resolve_right List.not_mem_nil
  | cons e l ih =>
    obtain ⟨hhead, hl⟩ := List.forall_mem_cons.1 h
    show ((d.insert e.1 e.2).insertMany l).get? k = some v
    refine ih hl ?_
    by_cases hk : e.1 = k
    · left
      rw [← hhead hk, ← hk, get?_insert_self]
    · rw [get?_insert, if_neg (Ne.symm hk)]
      refine hv.imp_right fun hmem => (List.mem_cons.1 hmem).resolve_left ?_
      rintro rfl
      exact hk rfl

/-- No key stands twice. -/
theorem nodup_keys (d : Dict β) : (d.entries.map Prod.fst).Nodup := by
  rw [List.Nodup, List.pairwise_map]
  apply d.ordered.imp
  intro e e' hlt heq
  rw [heq] at hlt
  exact String.lt_irrefl _ hlt

/-- The entries of a dictionary, inserted in any order, make up that dictionary. -/
theorem insertMany_perm_entries {d : Dict β} {l : List (String × β)} (hl : l.Perm d.entries) :
    (empty : Dict β).insertMany l = d := by
  have hkeys : (l.map Prod.fst).Nodup := (hl.map Prod.fst).nodup_iff.2 d.nodup_keys
  apply ext_get?
  intro k
  cases hk : d.get? k with
  | some v => exact get?_insertMany_of_mem hkeys (hl.mem_iff.2 (mem_entries_iff.2 hk)) _
  | none =>
    apply get?_insertMany_of_not_mem
    intro hmem
    obtain ⟨e, he, rfl⟩ := List.mem_map.1 hmem
    rw [mem_entries_iff.1 (hl.mem_iff.1 he)] at hk
    cases hk

/-! ### Keys

Whether a key is there, and whether any is, without what stands under it. -/

theorem contains_insert (d : Dict β) (k : String) (v : β) (j : String) :
    (d.insert k v).contains j = true ↔ j = k ∨ d.contains j = true := by
  rw [contains, contains, get?_insert]
  split
  · next heq => simp [heq]
  · next hne => simp [hne]

/-- A dictionary with an entry is not empty. -/
theorem isEmpty_insert (d : Dict β) (k : String) (v : β) : (d.insert k v).isEmpty = false := by
  have hentry : (k, v) ∈ (d.insert k v).entries := mem_entries_iff.2 (get?_insert_self d k v)
  exact List.isEmpty_eq_false_iff.2 (List.ne_nil_of_mem hentry)

/-- A dictionary is empty if every look-up fails. -/
theorem isEmpty_iff {d : Dict β} : d.isEmpty = true ↔ ∀ k, d.get? k = none := by
  rw [isEmpty, List.isEmpty_iff]
  constructor
  · intro h k
    rw [get?, h]
    rfl
  · intro h
    refine List.eq_nil_iff_forall_not_mem.2 fun e he => ?_
    have hget := mem_entries_iff.1 he
    rw [h] at hget
    cases hget

end TenantGate.Dict
