import TenantGate.Proofs.DenyList
import TenantGate.Proofs.Table.Access
import TenantGate.Proofs.Table.Transparency
/-!
# Looking up tables by name

A table that is found bears the name under which it was looked up (`yields_find`), whatever the
server answers and whatever the cache holds, as long as the cache is one that was come by honestly:
new, or left by looking up and forgetting tables (`TableCache.Reached`). Each of these keeps every
table under its own name (`TableCache.IsNamed`).
-/

namespace TenantGate

open Server TenantGate.Action

/-! ### The tables that requests name

A read of the catalog names one table, and a statement those that stand in it, joins included. -/

/-- The tables that a statement is about. -/
def Sql.Statement.tables : Statement → List TableName
  | insert t _ _ | count t _ | update t _ _ | delete t _ => [t]
  | select q => q.table :: q.joins.map (·.table)
  | ping => []

/-- The names of the tables that a request is about, be it a read of the catalog or a statement. -/
def Server.Request.tables : Request → List String
  | .columns _ table | .primaryKey _ table => [table]
  | .execute st => st.tables.map (·.name)
  | _ => []

/-- A statement that is bound to a table is about that one alone. -/
theorem Sql.Statement.BoundTo.tables {st : Statement} {table : TableName} {column : String}
    {b : Bound} (h : st.BoundTo table column b) : st.tables = [table] := by
  cases st with
  | insert t assignments returning => rw [Statement.tables, h.1]
  | select q => rw [Statement.tables, h.1, h.2.2.1, List.map_nil]
  | count t f => rw [Statement.tables, h.1]
  | update t assignments f => rw [Statement.tables, h.1]
  | delete t f => rw [Statement.tables, h.1]
  | ping => exact h.elim

variable {s : TableSource} {name raw : String}

/-- What looks a table up names that table. -/
theorem TableSource.IsLookup.eq_of_mem_tables {q : Request} (h : s.IsLookup name q) {n : String}
    (hn : n ∈ q.tables) : n = name := by
  cases q with
  | columns schema table => exact (List.mem_singleton.1 hn).trans h.2
  | primaryKey schema table => exact (List.mem_singleton.1 hn).trans h.2
  | execute st => exact h.elim
  | _ => cases hn

/-! ### Caches

Nothing else writes to a cache, so the only caches are those that these calls leave. Which source
made them and what the server answered is left open. -/

namespace TableCache

/-- Every table in the cache bears the name under which it is kept. -/
abbrev IsNamed (c : TableCache) : Prop := c.Holds fun name t => t.name = name

/-- The caches there can be: a new one, and what is left when a table is looked up, by whatever
source and with whatever answers, or when tables are forgotten. -/
inductive Reached : TableCache → Prop
  | new (lifetime : Nat) : Reached { lifetime }
  | find {c c' : TableCache} {s : TableSource} {raw : String} {es : List Exchange}
      {r : Except Failure Table} (h : Reached c) (hrun : (s.find raw).Run c es r c') : Reached c'
  | findReadable {c c' : TableCache} {s : TableSource} {raw : String} {es : List Exchange}
      {r : Except Failure Table} (h : Reached c) (hrun : (s.findReadable raw).Run c es r c') :
      Reached c'
  | forget {c : TableCache} (h : Reached c) (name : String) : Reached (c.forget name)
  | clear {c : TableCache} (h : Reached c) : Reached c.clear

end TableCache

/-! ### Names of the tables that are found

The invariant is that each table is kept under its own name; a table from the cache and one from the
catalog then bear the name that was looked up alike, and the overlay leaves it. -/

namespace TableSource

open TableCache (IsNamed)

variable {I : TableCache → Prop}

theorem yields_columns : Yields I (s.columns name) fun _ => True :=
  (yields_ask _).bind fun rows _ => (yields_ofReply rows).bind fun _ _ =>
    yields_ofExcept fun _ _ => trivial

theorem yields_primaryKey : Yields I (s.primaryKey name) fun _ => True := by
  refine (yields_ask _).bind fun reply _ => (yields_ofReply reply).bind fun key _ => ?_
  cases key with
  | none => exact yields_pure trivial
  | some key => exact (yields_ofExcept fun _ _ => trivial).bind fun key _ => yields_pure trivial

/-- A table read from the catalog gets the name that it is read under. -/
theorem yields_readCatalog : Yields I (s.readCatalog name) (·.name = name) := by
  refine yields_columns.bind fun columns _ => ?_
  cases columns with
  | nil => exact (yields_throw (P := fun _ => False)).bind fun _ h => h.elim
  | cons column columns =>
    refine yields_primaryKey.bind fun key _ => yields_ofExcept fun t ht => ?_
    cases key with
    | none => cases ht
    | some key => exact (names_of_ofColumns ht).2

theorem yields_cached? :
    Yields IsNamed (cached? name) fun found => ∀ t, found = some t → t.name = name :=
  (yields_ask _).bind fun now _ => yields_modifyGet fun _ hc => hc.lookup name now

/-- A table that is kept under its own name preserves the invariant. -/
theorem yields_keep (t : Table) : Yields IsNamed (keep t.name t) fun _ => True := by
  refine (yields_ask _).bind fun now _ => ?_
  refine (yields_modifyGet (g := fun c => (c, c)) (P := IsNamed) fun c hc => ⟨hc, hc⟩).bind
    fun c hc => ?_
  cases hinsert : c.insert? t.name t now with
  | none => exact yields_throw
  | some c' =>
    exact yields_modifyGet (g := fun _ => ((), c')) fun _ _ => ⟨trivial, hc.insert rfl hinsert⟩

/-- A table is kept as it is read. -/
theorem yields_catalogTable : Yields IsNamed (s.catalogTable name) (·.name = name) := by
  refine yields_cached?.bind fun found hfound => ?_
  cases found with
  | some t => exact yields_pure (hfound t rfl)
  | none =>
    refine yields_readCatalog.bind ?_
    rintro t rfl
    exact (yields_keep t).bind fun _ _ => yields_pure rfl

/-- A table that is found bears the name that it was looked up under. -/
theorem yields_find : Yields IsNamed (s.find raw) fun t => Table.readName raw = .ok t.name := by
  refine (yields_ofExcept fun name hname => hname).bind fun name hname => ?_
  refine yields_catalogTable.bind fun t ht => yields_pure ?_
  rw [(s.names_overlaid name t).2, ht, hname]

/-- The same holds of a table that is found for reading alone. -/
theorem yields_findReadable :
    Yields IsNamed (s.findReadable raw) fun t => Table.readName raw = .ok t.name := by
  refine (yields_ofExcept fun name hname => hname).bind fun name hname => ?_
  -- whichever way the table is come by, the overlay leaves its name
  have hoverlaid : ∀ t, t.name = name →
      Yields IsNamed (pure (s.overlaid name t)) fun t => Table.readName raw = .ok t.name := by
    intro t ht
    refine yields_pure ?_
    rw [(s.names_overlaid name t).2, ht, hname]
  refine yields_cached?.bind fun found hfound => ?_
  cases found with
  | some t => exact hoverlaid t (hfound t rfl)
  | none =>
    refine yields_primaryKey.bind fun key _ => ?_
    cases key with
    | some key => exact yields_catalogTable.bind hoverlaid
    | none =>
      refine yields_columns.bind fun columns _ => ?_
      exact (yields_ofExcept fun t ht => (names_of_ofColumns ht).2).bind hoverlaid

end TableSource

/-- The tables that are found for an expression are as what is found for reading alone. -/
theorem Gate.yields_findTables_of {I : TableCache → Prop} {P : String → Table → Prop} {g : Gate}
    (hfind : ∀ raw, Yields I (g.source.findReadable raw) (P raw)) {found : Dict Table}
    (names : List String) (hfound : ∀ raw t, found.get? raw = some t → P raw t) :
    Yields I (g.findTables found names) fun tables =>
      ∀ raw t, tables.get? raw = some t → P raw t := by
  induction names generalizing found with
  | nil => exact yields_pure hfound
  | cons name names ih =>
    rw [findTables]
    split
    · exact ih hfound
    · have hname : Yields I (some <$> g.source.findReadable name) fun table? =>
          ∀ t, table? = some t → P name t := by
        rw [map_eq_pure_bind]
        refine (hfind name).bind fun t ht => yields_pure ?_
        rintro _ ⟨⟩
        exact ht
      refine (hname.tryCatch fun failure => ?_).bind fun table? htable => ?_
      · split
        · exact yields_pure nofun
        · exact yields_throw
      · cases table? with
        | none => exact ih hfound
        | some t =>
          -- the new entry is as its look-up has it, and the others were there before
          refine ih fun raw t' hraw => ?_
          rw [Dict.get?_insert] at hraw
          split at hraw
          · next heq =>
            obtain rfl := Option.some.inj hraw
            rw [heq]
            exact htable _ rfl
          · exact hfound raw t' hraw

/-- The same from an empty list of tables. -/
theorem Gate.yields_findTables {I : TableCache → Prop} {P : String → Table → Prop} {g : Gate}
    (hfind : ∀ raw, Yields I (g.source.findReadable raw) (P raw)) (names : List String) :
    Yields I (g.findTables .empty names) fun tables =>
      ∀ raw t, tables.get? raw = some t → P raw t := by
  refine Gate.yields_findTables_of hfind names ?_
  rintro raw t ⟨⟩

/-- Every cache there can be keeps each table under its own name. -/
theorem TableCache.Reached.isNamed {c : TableCache} (h : c.Reached) : c.IsNamed := by
  induction h with
  | new lifetime => exact holds_new lifetime
  | find _ hrun ih => exact (TableSource.yields_find hrun (fun _ _ => trivial) ih).2
  | findReadable _ hrun ih => exact (TableSource.yields_findReadable hrun (fun _ _ => trivial) ih).2
  | forget _ name ih => exact ih.forget name
  | clear _ _ => exact holds_clear _

end TenantGate
