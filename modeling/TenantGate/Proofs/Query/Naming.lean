import Mathlib.Data.List.Induction
import TenantGate.Query.Plan
/-!
# Names of the columns in a row

The columns of a select list need different names in a row. `IsTaken` says which names there are
after some columns, `Clashes` when a further one has no name left, and a selection keeps both
(`Selection.Records.add`).
-/

namespace TenantGate.Query

open Sql

namespace BoundColumn

/-- What columns of a select list are told apart by. -/
def key (c : BoundColumn) : String × String := (c.source.aliasName, c.column)

/-- The name of a column in a row that has another one under the column's own name. -/
def label (c : BoundColumn) : String := c.source.aliasName ++ "_" ++ c.column

end BoundColumn

/-- A name that a row has after the columns of a select list: a column's own name or, if that was
taken when the column was first met, the one after its alias. -/
inductive IsTaken : List BoundColumn → String → Prop
  | column {cs : List BoundColumn} {c : BoundColumn} : IsTaken (cs ++ [c]) c.column
  | label {cs : List BoundColumn} {c : BoundColumn} (hnew : ∀ d ∈ cs, d.key ≠ c.key)
      (htaken : IsTaken cs c.column) : IsTaken (cs ++ [c]) c.label
  | earlier {cs : List BoundColumn} {c : BoundColumn} {name : String} (h : IsTaken cs name) :
      IsTaken (cs ++ [c]) name

/-- A further column that is new, and for which both names are taken. -/
def Clashes (cs : List BoundColumn) (c : BoundColumn) : Prop :=
  (∀ d ∈ cs, d.key ≠ c.key) ∧ IsTaken cs c.column ∧ IsTaken cs c.label

theorem not_isTaken_nil (name : String) : ¬ IsTaken [] name := by
  intro h
  generalize hcs : ([] : List BoundColumn) = cs at h
  cases h <;> simp at hcs

/-- One more column takes its own name, or else its label if it is new and the name was taken. -/
theorem isTaken_append_iff {cs : List BoundColumn} {c : BoundColumn} {name : String} :
    IsTaken (cs ++ [c]) name ↔
      IsTaken cs name ∨ name = c.column ∨
        (∀ d ∈ cs, d.key ≠ c.key) ∧ IsTaken cs c.column ∧ name = c.label := by
  constructor
  · intro h
    -- the last column of the list is made a variable, so that each rule can be matched against it
    generalize hcs : cs ++ [c] = cs' at h
    cases h with
    | column =>
      obtain ⟨-, rfl⟩ := List.append_singleton_inj.1 hcs
      exact .inr (.inl rfl)
    | label hnew htaken =>
      obtain ⟨rfl, rfl⟩ := List.append_singleton_inj.1 hcs
      exact .inr (.inr ⟨hnew, htaken, rfl⟩)
    | earlier h =>
      obtain ⟨rfl, -⟩ := List.append_singleton_inj.1 hcs
      exact .inl h
  · rintro (h | rfl | ⟨hnew, htaken, rfl⟩)
    · exact .earlier h
    · exact .column
    · exact .label hnew htaken

/-- The name of a column that was met is taken, by it or by a column before it. -/
theorem isTaken_of_mem {cs : List BoundColumn} {c : BoundColumn} (h : c ∈ cs) :
    IsTaken cs c.column := by
  -- from the end, as names are taken in that order
  induction cs using List.reverseRecOn with
  | nil => cases h
  | append_singleton cs d ih =>
    rcases List.mem_append.1 h with h | h
    · exact .earlier (ih h)
    · obtain rfl := List.mem_singleton.1 h
      exact .column

/-- With its own name free, that is the name that a column takes. -/
theorem isTaken_append_of_free {cs : List BoundColumn} {c : BoundColumn}
    (hfree : ¬ IsTaken cs c.column) (name : String) :
    IsTaken (cs ++ [c]) name ↔ name = c.column ∨ IsTaken cs name := by
  rw [isTaken_append_iff]
  constructor
  · rintro (h | rfl | ⟨-, htaken, -⟩)
    · exact .inr h
    · exact .inl rfl
    · exact absurd htaken hfree
  · rintro (rfl | h)
    · exact .inr (.inl rfl)
    · exact .inl h

/-- With its own name taken, a new column takes its label. -/
theorem isTaken_append_of_taken {cs : List BoundColumn} {c : BoundColumn}
    (hnew : ∀ d ∈ cs, d.key ≠ c.key) (htaken : IsTaken cs c.column) (name : String) :
    IsTaken (cs ++ [c]) name ↔ name = c.label ∨ IsTaken cs name := by
  rw [isTaken_append_iff]
  constructor
  · rintro (h | rfl | ⟨-, -, rfl⟩)
    · exact .inr h
    · exact .inr htaken
    · exact .inl rfl
  · rintro (rfl | h)
    · exact .inr (.inr ⟨hnew, htaken, rfl⟩)
    · exact .inl h

namespace Selection

/-- What a selection keeps of the columns met. -/
structure Records (s : Selection) (cs : List BoundColumn) : Prop where
  picked : ∀ k, k ∈ s.picked ↔ ∃ c ∈ cs, c.key = k
  names : ∀ name, name ∈ s.names ↔ IsTaken cs name

theorem records_empty : Records {} [] where
  picked := by simp
  names := by simp [not_isTaken_nil]

variable {s : Selection} {cs : List BoundColumn} {c : BoundColumn}

/-- A column met before changes nothing. -/
theorem Records.append_met (hs : s.Records cs) {d : BoundColumn} (hd : d ∈ cs)
    (hkey : d.key = c.key) : s.Records (cs ++ [c]) where
  picked k := by
    rw [hs.picked]
    simp only [List.mem_append, List.mem_singleton, or_and_right, exists_or, exists_eq_left]
    constructor
    · exact .inl
    · rintro (h | rfl)
      · exact h
      · exact ⟨d, hd, hkey⟩
  names name := by
    rw [hs.names, isTaken_append_iff]
    constructor
    · exact .inl
    · rintro (h | rfl | ⟨hnew, -, -⟩)
      · exact h
      · obtain ⟨-, hcolumn⟩ := Prod.mk.inj hkey
        rw [← hcolumn]
        exact isTaken_of_mem hd
      · exact absurd hkey (hnew d hd)

/-- A new column is kept with the name that it takes. -/
theorem Records.append_new (hs : s.Records cs) {taken : String} {outputs : List Output}
    (htaken : ∀ name, IsTaken (cs ++ [c]) name ↔ name = taken ∨ IsTaken cs name) :
    Records ⟨c.key :: s.picked, taken :: s.names, outputs⟩ (cs ++ [c]) where
  picked k := by
    rw [List.mem_cons, hs.picked]
    simp only [List.mem_append, List.mem_singleton, or_and_right, exists_or, exists_eq_left]
    rw [or_comm, eq_comm]
  names name := by
    rw [List.mem_cons, hs.names, htaken]

/-- One more column is met, or it clashes with those before. -/
theorem Records.add (hs : s.Records cs) (c : BoundColumn) :
    s.add c = none ∧ Clashes cs c ∨
      ∃ s', s.add c = some s' ∧ ¬ Clashes cs c ∧ s'.Records (cs ++ [c]) := by
  have hkey : s.picked.contains c.key = true ↔ ∃ d ∈ cs, d.key = c.key := by
    rw [List.contains_iff_mem, hs.picked]
  have hname (name : String) : s.names.contains name = true ↔ IsTaken cs name := by
    rw [List.contains_iff_mem, hs.names]
  -- the three cases of `Selection.add`: met before, free under its own name, and taken there
  unfold Selection.add
  dsimp only
  split
  next hmet =>
    obtain ⟨d, hd, hdc⟩ := hkey.1 hmet
    exact .inr ⟨s, rfl, fun h => h.1 d hd hdc, hs.append_met hd hdc⟩
  next hunmet =>
    split
    next hfree =>
      have hfree : ¬ IsTaken cs c.column := by
        rw [← hname]
        simpa using hfree
      exact .inr ⟨_, rfl, fun h => hfree h.2.1, hs.append_new (isTaken_append_of_free hfree)⟩
    next htaken =>
      have hnew : ∀ d ∈ cs, d.key ≠ c.key := fun d hd hdc => hunmet (hkey.2 ⟨d, hd, hdc⟩)
      have htaken : IsTaken cs c.column := by
        rw [← hname]
        simpa using htaken
      split
      next hlabel => exact .inl ⟨rfl, hnew, htaken, (hname c.label).1 hlabel⟩
      next hlabel =>
        exact .inr ⟨_, rfl, fun h => hlabel ((hname c.label).2 h.2.2),
          hs.append_new (isTaken_append_of_taken hnew htaken)⟩

theorem Records.add_eq_none_iff (hs : s.Records cs) : s.add c = none ↔ Clashes cs c := by
  rcases hs.add c with ⟨hnone, hclash⟩ | ⟨s', hsome, hclash, -⟩
  · exact iff_of_true hnone hclash
  · exact iff_of_false (by simp [hsome]) hclash

/-- What is kept after one more column, whichever name it got. -/
theorem Records.append (hs : s.Records cs) {s' : Selection} (h : s.add c = some s') :
    s'.Records (cs ++ [c]) := by
  rcases hs.add c with ⟨hnone, -⟩ | ⟨s'', hsome, -, hrecords⟩
  · rw [h] at hnone
    cases hnone
  · obtain rfl := Option.some.inj (h.symm.trans hsome)
    exact hrecords

end Selection

end TenantGate.Query
