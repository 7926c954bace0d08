import TenantGate.Proofs.Dict
import TenantGate.Table.Cache
/-!
# What a cache holds

A property of the tables in a cache, each under its name (`TableCache.Holds`), is kept by all that
is done with a cache: entries are only dropped, or added for tables that have the property.
-/

namespace TenantGate.TableCache

/-- Every table in the cache has the property under its name, expired or not. -/
def Holds (P : String → Table → Prop) (c : TableCache) : Prop :=
  ∀ name e, c.entry? name = some e → P name e.table

variable {P : String → Table → Prop} {c c' : TableCache}

theorem holds_new (lifetime : Nat) : Holds P { lifetime } := by rintro name e ⟨⟩

theorem holds_clear (c : TableCache) : c.clear.Holds P := by rintro name e ⟨⟩

theorem Holds.forget (h : c.Holds P) (name : String) : (c.forget name).Holds P :=
  fun name' e he => h name' e (Dict.get?_of_get?_erase he)

/-- To look a table up drops at most an entry. -/
theorem Holds.lookup (h : c.Holds P) (name : String) (now : Instant) :
    (∀ t, (c.lookup name now).1 = some t → P name t) ∧ (c.lookup name now).2.Holds P := by
  unfold TableCache.lookup
  split
  · exact ⟨nofun, h⟩
  next e he =>
  split
  · refine ⟨?_, h⟩
    rintro t ⟨⟩
    exact h name e he
  · refine ⟨nofun, ?_⟩
    unfold dropExpired
    rw [he]
    dsimp only
    split
    · exact h.forget name
    · exact h

/-- A table with the property may be kept. -/
theorem Holds.insert {name : String} {t : Table} {now : Instant} (h : c.Holds P) (ht : P name t)
    (hinsert : c.insert? name t now = some c') : c'.Holds P := by
  obtain ⟨expires, -, rfl⟩ := Option.map_eq_some_iff.1 hinsert
  intro name' e he
  unfold entry? at he
  rw [Dict.get?_insert] at he
  split at he
  · next heq =>
    cases he
    rw [heq]
    exact ht
  · exact h name' e he

/-- To look a table up or to keep one does not change the lifetime of new entries. -/
theorem lifetime_lookup (c : TableCache) (name : String) (now : Instant) :
    (c.lookup name now).2.lifetime = c.lifetime := by
  unfold TableCache.lookup dropExpired
  split
  · rfl
  · split
    · rfl
    · split
      · split <;> rfl
      · rfl

/-- The lifetime belongs to the cache and is set once. -/
theorem lifetime_insert {name : String} {t : Table} {now : Instant}
    (hinsert : c.insert? name t now = some c') : c'.lifetime = c.lifetime := by
  obtain ⟨expires, -, rfl⟩ := Option.map_eq_some_iff.1 hinsert
  rfl

end TenantGate.TableCache
