import TenantGate.Rows
import TenantGate.Proofs.Server.Run
import TenantGate.Proofs.Page.Statements
import TenantGate.Proofs.Tenancy.Scope
/-!
# Reaching a table within a scope

An operation on rows first enters a table and then talks to the server about that table alone.
Entering sends no statement (`asks_enter`), and what an operation sends after it is bound to the
scope (`TenantTable.Allows`). `Gate.Confines` says both about the exchanges of a run: every
statement among them is bound to the tenant in the one table that was found.
-/

namespace TenantGate

open Server TenantGate.Action

/-! ### Looking up a table

Whatever way a table is come by, the requests on it are reads of the catalog about that one table,
or for the clock. Both finders are taken apart into their parts for this. -/

/-- A request that only reads the catalog or a clock. -/
def Server.Request.IsRead : Request → Prop
  | .columns .. | .primaryKey .. | .instant | .now => True
  | _ => False

/-- A read carries no statement. -/
theorem Server.Request.IsRead.statement? {q : Request} (h : q.IsRead) : q.statement? = none := by
  cases q with
  | execute st => exact h.elim
  | _ => rfl

/-- An action that only reads sends no statement. -/
theorem Action.statementsOf_of_reads {α : Type} {x : Action α} (hx : x.Asks Request.IsRead)
    {c c' : TableCache} {es : List Exchange} {r : Except Failure α} (h : x.Run c es r c') :
    statementsOf es = [] :=
  statementsOf_eq_nil (hx.imp fun _ => Request.IsRead.statement?) h

namespace TableSource

variable (s : TableSource) (name : String)

/-- What is asked to find the table of a name: the catalog about that table, and the clock. -/
def IsLookup : Request → Prop
  | .columns schema table | .primaryKey schema table => schema = s.schema ∧ table = name
  | .instant => True
  | _ => False

variable {s name} in
/-- What looks a table up is a read. -/
theorem IsLookup.isRead {q : Request} (h : s.IsLookup name q) : q.IsRead := by
  cases q with
  | columns schema table => trivial
  | primaryKey schema table => trivial
  | instant => trivial
  | _ => exact h.elim

theorem asks_columns : (s.columns name).Asks (s.IsLookup name) := by
  have hread : s.IsLookup name (.columns s.schema name) := ⟨rfl, rfl⟩
  exact (asks_ask hread).bind fun _ => (asks_ofReply _).bind fun _ => asks_ofExcept _

theorem asks_primaryKey : (s.primaryKey name).Asks (s.IsLookup name) := by
  have hread : s.IsLookup name (.primaryKey s.schema name) := ⟨rfl, rfl⟩
  refine (asks_ask hread).bind fun _ => (asks_ofReply _).bind fun key => ?_
  cases key with
  | none => exact asks_pure _
  | some key => exact (asks_ofExcept _).bind fun _ => asks_pure _

/-- The columns are read, and the key where there are columns. -/
theorem asks_readCatalog : (s.readCatalog name).Asks (s.IsLookup name) := by
  refine (s.asks_columns name).bind fun columns => ?_
  cases columns with
  | nil => exact (asks_throw _).bind fun _ => (s.asks_primaryKey name).bind fun _ => asks_ofExcept _
  | cons column columns => exact (s.asks_primaryKey name).bind fun _ => asks_ofExcept _

theorem asks_cached? : (cached? name).Asks (s.IsLookup name) :=
  (asks_ask (P := s.IsLookup name) (by trivial)).bind fun _ => asks_modifyGet _

/-- To keep a table the clock is read. -/
theorem asks_keep (t : Table) : (keep name t).Asks (s.IsLookup name) := by
  refine (asks_ask (P := s.IsLookup name) (by trivial)).bind fun now => ?_
  refine (asks_modifyGet _).bind fun c => ?_
  cases TableCache.insert? c name t now with
  | none => exact asks_throw _
  | some c' => exact asks_modifyGet _

theorem asks_catalogTable : (s.catalogTable name).Asks (s.IsLookup name) := by
  refine (s.asks_cached? name).bind fun cached => ?_
  cases cached with
  | some t => exact asks_pure _
  | none => exact (s.asks_readCatalog name).bind fun t =>
      (s.asks_keep name t).bind fun _ => asks_pure _

/-- A request that looks a table up under the name that a caller gives. -/
def IsLookupOf (raw : String) (q : Request) : Prop :=
  ∃ name, Table.readName raw = .ok name ∧ s.IsLookup name q

/-- A name that is not one of a table is not looked up at all. -/
theorem asks_lookup_find (raw : String) : (s.find raw).Asks (s.IsLookupOf raw) := by
  refine asks_ofExcept_bind fun name hname => ?_
  refine ((s.asks_catalogTable name).bind fun _ => asks_pure _).imp ?_
  exact fun q hq => ⟨name, hname, hq⟩

/-- For reading alone, the key is read before the columns, and all about the same table. -/
theorem asks_lookup_findReadable (raw : String) :
    (s.findReadable raw).Asks (s.IsLookupOf raw) := by
  refine asks_ofExcept_bind fun name hname => ?_
  refine Asks.imp (P := s.IsLookup name) ?_ fun q hq => ⟨name, hname, hq⟩
  refine (s.asks_cached? name).bind fun cached => ?_
  cases cached with
  | some t => exact asks_pure _
  | none =>
    refine (s.asks_primaryKey name).bind fun key => ?_
    cases key with
    | some key => exact (s.asks_catalogTable name).bind fun t => asks_pure _
    | none =>
      exact (s.asks_columns name).bind fun columns => (asks_ofExcept _).bind fun t => asks_pure _

/-- To find a table, the catalog is read and no statement is sent. -/
theorem asks_find (raw : String) : (s.find raw).Asks Request.IsRead :=
  (s.asks_lookup_find raw).imp fun _ ⟨_, _, hq⟩ => hq.isRead

end TableSource

/-! ### Operations within a scope

Every statement on a table that was entered is bound to the scope, by construction
(`Table.boundTo_insertRow` and its like). The operations on rows that are there already are asked
about with a parameter `P`, so that one lemma for each serves every notion of what is allowed. -/

namespace TenantTable

/-- A request that carries no statement, or one that is bound to the scope. -/
def Allows (t : TenantTable) (q : Request) : Prop :=
  ∀ st, q.statement? = some st →
    st.BoundTo t.table.sqlName t.scope.column (t.table.bound t.scope)

/-- A read carries no statement, so it is allowed. -/
theorem allows_of_isRead (t : TenantTable) {q : Request} (h : q.IsRead) : t.Allows q := by
  intro st hst
  rw [h.statement?] at hst
  cases hst

/-- A bound statement is allowed. -/
theorem allows_execute {t : TenantTable} {st : Sql.Statement}
    (h : st.BoundTo t.table.sqlName t.scope.column (t.table.bound t.scope)) :
    t.Allows (.execute st) := by
  rintro _ ⟨⟩
  exact h

/-- A request that is allowed and adds no row: what it carries has a `WHERE` clause. -/
def AllowsExisting (t : TenantTable) (q : Request) : Prop :=
  t.Allows q ∧ ∀ st, q.statement? = some st → ∃ f, st.filter? = some f

/-- A bound statement with a `WHERE` clause is allowed on rows that are there. -/
theorem allowsExisting_execute {t : TenantTable} {st : Sql.Statement} {f : Sql.Filter}
    (h : st.BoundTo t.table.sqlName t.scope.column (t.table.bound t.scope))
    (hf : st.filter? = some f) : t.AllowsExisting (.execute st) := by
  refine ⟨allows_execute h, ?_⟩
  rintro _ ⟨⟩
  exact ⟨f, hf⟩

/-- A request that an operation within the scope makes: a statement that is bound to it, or for the
time of day. -/
inductive Makes (t : TenantTable) : Request → Prop where
  | execute {st : Sql.Statement}
      (h : st.BoundTo t.table.sqlName t.scope.column (t.table.bound t.scope)) :
      Makes t (.execute st)
  | now : Makes t .now

/-- What an operation within the scope makes is allowed in it. -/
theorem Makes.allows {t : TenantTable} {q : Request} (h : t.Makes q) : t.Allows q := by
  cases h with
  | execute h => exact allows_execute h
  | now => exact t.allows_of_isRead trivial

variable (t : TenantTable)

/-- A new row is one insertion with the scope's value. -/
theorem asks_insert (r : Record) : (t.insert r).Asks t.Makes := by
  refine (asks_execute (.execute (t.table.boundTo_insertRow t.scope r))).bind fun result => ?_
  split
  · exact asks_pure _
  · exact asks_throw _

section

variable {P : Request → Prop} (hP : ∀ {st : Sql.Statement} {f : Sql.Filter},
  st.BoundTo t.table.sqlName t.scope.column (t.table.bound t.scope) → st.filter? = some f →
    P (.execute st))

include hP

/-- One row is read. -/
theorem asks_find_of (key : Sql.Value) : (t.find key).Asks P := by
  refine (asks_execute (hP (t.table.boundTo_selectRow t.scope key) rfl)).bind fun result => ?_
  split
  · exact asks_pure _
  · exact asks_throw _

/-- One row is changed. -/
theorem asks_update_of (key : Sql.Value) (r : Record) : (t.update key r).Asks P := by
  have hupdate := hP (t.table.boundTo_updateRow t.scope key r)
    (t.table.filter?_updateRow t.scope key r)
  refine (asks_execute hupdate).bind fun result => ?_
  split
  · exact asks_throw _
  · exact asks_pure _

/-- One row is removed. -/
theorem asks_delete_of (key : Sql.Value) : (t.delete key).Asks P := by
  refine (asks_execute (hP (t.table.boundTo_deleteRow t.scope key) rfl)).bind fun result => ?_
  split
  · exact asks_throw _
  · exact asks_pure _

/-- The count of a page is bound like its rows. -/
theorem asks_page_of (r : Listing) (defaultSize : Int64) : (t.page r defaultSize).Asks P := by
  refine asks_ofExcept_bind fun statements hstatements => ?_
  have htotal := asks_execute (hP (Page.boundTo_total hstatements) rfl)
  have hpage := asks_execute (hP (Page.boundTo_page hstatements) rfl)
  dsimp only
  -- rows are counted only where the request asks for the total
  split
  · refine htotal.bind fun result => Asks.bind ?_ fun total => hpage.bind fun result =>
      asks_ofExcept_bind fun info _ => asks_pure _
    cases readTotal result with
    | ok n => exact asks_pure (some n)
    | error e => exact asks_throw e
  · exact (asks_pure none).bind fun total => hpage.bind fun result =>
      asks_ofExcept_bind fun info _ => asks_pure _

end

theorem asks_find (key : Sql.Value) : (t.find key).Asks t.AllowsExisting :=
  t.asks_find_of allowsExisting_execute key

theorem asks_update (key : Sql.Value) (r : Record) : (t.update key r).Asks t.AllowsExisting :=
  t.asks_update_of allowsExisting_execute key r

theorem asks_delete (key : Sql.Value) : (t.delete key).Asks t.AllowsExisting :=
  t.asks_delete_of allowsExisting_execute key

theorem asks_page (r : Listing) (defaultSize : Int64) :
    (t.page r defaultSize).Asks t.AllowsExisting :=
  t.asks_page_of allowsExisting_execute r defaultSize

end TenantTable

/-! ### Entering a table

To enter is to look the table up and to make the scope of the tenant in it. It is the one way from a
name to a table, so what is shown of it holds of all operations on rows. -/

namespace Gate

variable {g : Gate} {raw : String} {tenant : Tenant}

/-- To enter a table, the catalog is read and no statement is sent. -/
theorem asks_enter (g : Gate) (raw : String) (tenant : Tenant) :
    (g.enter raw tenant).Asks Request.IsRead :=
  (asks_ofExcept _).bind fun name => (g.source.asks_find name).bind fun _ =>
    (asks_ofExcept _).bind fun _ => asks_pure _

/-- With this cache, the table that the caller names is found in these exchanges, its name being
permitted. -/
def Finds (g : Gate) (raw : String) (c : TableCache) (es : List Exchange) (t : Table) : Prop :=
  ∃ name c', g.denials.permittedName raw = .ok name ∧ (g.source.find name).Run c es (.ok t) c'

/-- Whom the gate lets through has found the table, and has the tenant's scope in it. -/
theorem finds_of_enter {c c' : TableCache} {es : List Exchange} {t : TenantTable}
    (h : (g.enter raw tenant).Run c es (.ok t) c') :
    g.Finds raw c es t.table ∧ Scope.ofTable t.table g.tenants tenant = .ok t.scope := by
  rcases run_ofExcept_bind_iff.1 h with ⟨e, -, -, hr, -⟩ | ⟨name, hname, h⟩
  · cases hr
  rcases run_bind_iff.1 h with ⟨e, hr, -⟩ | ⟨es₁, es₂, table, c₁, rfl, hfind, h⟩
  · cases hr
  rcases run_ofExcept_bind_iff.1 h with ⟨e, -, -, hr, -⟩ | ⟨scope, hscope, h⟩
  · cases hr
  obtain ⟨rfl, hr, -⟩ := run_pure_iff.1 h
  cases hr
  rw [List.append_nil]
  exact ⟨⟨name, c₁, hname, hfind⟩, hscope⟩

/-- The exchanges hold no statement, or a table is found in them, with the cache that there was, and
every statement is bound to the tenant's scope in that table. -/
def Confines (g : Gate) (raw : String) (tenant : Tenant) (c : TableCache) (es : List Exchange) :
    Prop :=
  statementsOf es = [] ∨
    ∃ before lookup after, ∃ t : TenantTable, es = before ++ lookup ++ after ∧
      g.Finds raw c lookup t.table ∧ Scope.ofTable t.table g.tenants tenant = .ok t.scope ∧
      ∀ st ∈ statementsOf es, st.BoundTo t.table.sqlName t.scope.column (t.table.bound t.scope)

/-- Exchanges without statements around do no harm. -/
theorem Confines.within {c : TableCache} {es es' before after : List Exchange}
    (h : g.Confines raw tenant c es)
    (hes : es' = before ++ es ++ after) (hst : statementsOf es' = statementsOf es) :
    g.Confines raw tenant c es' := by
  rcases h with hnone | ⟨front, lookup, back, t, rfl, hfinds, hscope, hbound⟩
  · exact .inl (hst.trans hnone)
  · refine .inr ⟨before ++ front, lookup, back ++ after, t, ?_, hfinds, hscope, ?_⟩
    · simpa using hes
    · rwa [hst]

/-- To enter a table and ask there only for what its scope allows is confined. -/
theorem confines_of_enter_bind {α : Type} {f : TenantTable → Action α} {c c' : TableCache}
    {es : List Exchange} {r : Except Failure α} (hf : ∀ t, (f t).Asks t.Allows)
    (h : (g.enter raw tenant >>= f).Run c es r c') : g.Confines raw tenant c es := by
  -- either the table is not entered and nothing was stated, or the statements are those of `f`
  rcases run_bind_iff.1 h with ⟨e, -, h⟩ | ⟨lookup, after, t, c₁, rfl, henter, h⟩
  · exact .inl (statementsOf_of_reads (g.asks_enter raw tenant) h)
  · obtain ⟨hfinds, hscope⟩ := finds_of_enter henter
    refine .inr ⟨[], lookup, after, t, rfl, hfinds, hscope, ?_⟩
    intro st hst
    obtain ⟨e, he, hcarried⟩ := List.mem_filterMap.1 hst
    rcases List.mem_append.1 he with he | he
    · exact t.allows_of_isRead (g.asks_enter raw tenant henter e he) st hcarried
    · exact hf t h e he st hcarried

end Gate
end TenantGate
