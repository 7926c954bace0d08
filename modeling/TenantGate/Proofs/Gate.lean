import TenantGate.Proofs.Query.Limit
import TenantGate.Proofs.Query.Outputs
import TenantGate.Proofs.Table.Lookup
import TenantGate.Proofs.Table.Sending
/-!
# Deny lists keep tables out

However tables are written, a deny list decides about them under the names that go out (`Gated`):
for a table that it denies neither the catalog is read nor a statement sent, and every table that a
read of the catalog or a statement names is one that it permits, by a plain name. The answer to a
query expression, besides, is limited (`Gate.answer_limited`).

Names go out in two ways. What is looked up carries the name that was read; what is stated carries
the name of a table that was found, and is the same because tables bear the names they are looked up
under (`Gate.yields_enter`, `Gate.poses_answer`).
-/

namespace TenantGate

open Server Sql TenantGate.Action

/-! ### What goes out

`Gated` is what is asked of a request to the server. `NamedAs` is the half that can be shown without
the text of the deny list, from the names that are looked up. -/

/-- What may be asked of the server for a request that refers to these tables, where a text denies
some. -/
structure Gated (text : String) (raws : List String) (q : Server.Request) : Prop where
  /-- Where one of the tables is denied, the request is no statement, and no read of the catalog, as
  that would name a table. -/
  denied : (∃ raw ∈ raws, DenyList.Denies text raw) → q.statement? = none ∧ q.tables = []
  /-- Whatever table is named is permitted, and its name is plain. -/
  named : ∀ name ∈ q.tables, IsPlainName name ∧ (DenyList.parse text).permits name = true

variable {text : String} {raws : List String} {es : List Exchange}

/-- All the tables referred to are permitted, and the request names tables among them, each by the
name that is read of it. -/
structure NamedAs (d : DenyList) (raws : List String) (q : Server.Request) : Prop where
  permitted : ∀ raw ∈ raws, d.permits raw = true
  read : ∀ name ∈ q.tables, ∃ raw ∈ raws, Table.readName raw = .ok name

/-- What names permitted tables only, each by its plain name, is gated. -/
theorem NamedAs.gated {q : Server.Request} (h : NamedAs (.parse text) raws q) :
    Gated text raws q where
  denied := by
    rintro ⟨raw, hraw, hdenies⟩
    exact absurd hdenies (DenyList.permits_parse_iff.1 (h.permitted raw hraw)).2
  named name hname := by
    obtain ⟨raw, hraw, hread⟩ := h.read name hname
    refine ⟨Table.isPlainName_of_readName hread, ?_⟩
    rw [DenyList.permits_of_readName _ hread]
    exact h.permitted raw hraw

namespace Gate

variable {g : Gate} {raw : String} {tenant : Tenant} {c c' : TableCache}

/-! ### Entering a table

The name is checked against the deny list and then looked up; the table that is found bears it. -/

/-- A table that is entered bears the name that is permitted. -/
theorem yields_enter : Yields TableCache.IsNamed (g.enter raw tenant) fun t =>
    g.denials.permittedName raw = .ok t.table.name := by
  refine (yields_ofExcept fun name hname => hname).bind fun name hname => ?_
  have hplain := Table.isPlainName_of_readName (DenyList.permittedName_eq_ok_iff.1 hname).1
  refine TableSource.yields_find.bind fun t ht => ?_
  -- the permitted name is looked up as it is
  rw [Table.readName_of_isPlainName hplain, Except.ok.injEq] at ht
  rw [ht] at hname
  exact (yields_ofExcept fun _ _ => trivial).bind fun scope _ => yields_pure hname

/-- A request about the table whose name is permitted. -/
theorem namedAs_of_permittedName {d : DenyList} {q : Server.Request} {name : String}
    (hname : d.permittedName raw = .ok name) (hq : ∀ n ∈ q.tables, n = name) :
    NamedAs d [raw] q := by
  obtain ⟨hread, hpermits⟩ := DenyList.permittedName_eq_ok_iff.1 hname
  rw [DenyList.permits_of_readName d hread] at hpermits
  refine ⟨List.forall_mem_singleton.2 hpermits, fun n hn => ⟨raw, List.mem_singleton_self raw, ?_⟩⟩
  rw [hq n hn]
  exact hread

/-- To enter a table, the catalog is asked about the permitted name alone. -/
theorem asks_named_enter : (g.enter raw tenant).Asks (NamedAs g.denials [raw]) := by
  refine asks_ofExcept_bind fun name hname => ?_
  have hplain := Table.isPlainName_of_readName (DenyList.permittedName_eq_ok_iff.1 hname).1
  refine Asks.imp (P := g.source.IsLookupOf name) ?_ ?_
  · exact (g.source.asks_lookup_find name).bind fun _ => (asks_ofExcept _).bind fun _ => asks_pure _
  · rintro q ⟨name', hname', hq⟩
    rw [Table.readName_of_isPlainName hplain, Except.ok.injEq] at hname'
    subst hname'
    exact namedAs_of_permittedName hname fun n hn => hq.eq_of_mem_tables hn

/-- What is stated within a scope names the table of the scope. -/
theorem namedAs_of_makes {t : TenantTable} {d : DenyList} {q : Server.Request} (h : t.Makes q)
    (ht : d.permittedName raw = .ok t.table.name) : NamedAs d [raw] q := by
  refine namedAs_of_permittedName ht fun n hn => ?_
  cases h with
  | execute h =>
    rw [Server.Request.tables, h.tables] at hn
    exact List.mem_singleton.1 hn
  | now => cases hn

/-- A table that is entered, and requests of its scope. -/
theorem gated_enter_bind {α : Type} {f : TenantTable → Action α} {r : Except Failure α}
    (hdenials : g.denials = .parse text) (hc : c.IsNamed) (hf : ∀ t, (f t).Asks t.Makes)
    (h : (g.enter raw tenant >>= f).Run c es r c') : ∀ e ∈ es, Gated text [raw] e.1 := by
  have hnamed : ∀ e ∈ es, NamedAs g.denials [raw] e.1 := by
    rcases run_bind_iff.1 h with ⟨e, -, h⟩ | ⟨lookup, after, t, c₁, rfl, henter, h⟩
    · exact asks_named_enter h
    -- the table that the scope is of bears the name that was permitted
    · have ht := (yields_enter henter (fun _ _ => trivial) hc).1 t rfl
      refine List.forall_mem_append.2 ⟨asks_named_enter henter, fun e he => ?_⟩
      exact namedAs_of_makes (hf t h e he) ht
  rw [hdenials] at hnamed
  exact fun e he => (hnamed e he).gated

end Gate

/-! ### Query expressions

All tables of an expression are checked before one is looked up. A single name that is denied ends
it, whatever the others are. -/

namespace Query

/-- The tables that the text of an expression refers to; one that cannot be read refers to none. -/
def tablesOf (query : String) : List String :=
  match Expression.read query with
  | .ok e => e.tables
  | .error _ => []

/-- The tables that a planned statement names are those bound for the tables of the expression. -/
theorem exists_of_mem_tables {e : Expression} {tenant : Tenant} {tables : Dict Table}
    {columns : TenantNaming} {q : Sql.Query} (h : plan e tenant tables columns = .ok q) :
    ∀ name ∈ (Statement.select q).tables,
      ∃ raw ∈ e.tables, ∃ t, tables.get? raw = some t ∧ name = t.sqlName := by
  obtain ⟨base, joined, tenants, outs, joins, wheres, order, hbase, hjoined, hnodup, -, -, -,
    hjoins, -, -, rfl⟩ := plan_eq_ok_iff.1 h
  rw [Statement.tables, List.forall_mem_cons]
  refine ⟨⟨e.base.table, List.mem_cons_self, base.table, hbase.table, rfl⟩, ?_⟩
  intro name hname
  obtain ⟨join, hjoin, rfl⟩ := List.mem_map.1 hname
  obtain ⟨⟨clause, source⟩, hmem, hplanned⟩ := exists_of_forall₂ hjoins hjoin
  obtain ⟨left, right, -, -, rfl⟩ := (planJoin_eq_ok_iff hnodup).1 hplanned
  have hbinds := (List.forall₂_iff_zip.1 hjoined).2 hmem
  refine ⟨clause.target.table, List.mem_cons_of_mem _ ?_, source.table, hbinds.table, rfl⟩
  exact List.mem_map.2 ⟨clause, (List.of_mem_zip hmem).1, rfl⟩

/-- The statement ends in a limit between one and the greatest, which is that of the expression if
it has one within the greatest. -/
def Limits (query : String) (greatest : Int64) (st : Statement) : Prop :=
  ∃ limit, st.EndsInLimit limit ∧ 0 < limit ∧ limit ≤ greatest ∧
    ∀ e n, Expression.read query = .ok e → e.limit = some n → n ≤ greatest → limit = n

end Query

namespace Gate

open Query (Expression)

variable {g : Gate} {tenant : Tenant} {c c' : TableCache} {greatest : Int64} {query : String}
  {rows : Except Failure (List Json)}

/-- What is asked to answer an expression: its tables are looked up, and the statement is one
planned over tables that bear the names they were looked up under. -/
inductive Poses (g : Gate) (greatest : Int64) (tenant : Tenant) (e : Expression) :
    Server.Request → Prop
  | lookup {raw : String} {q : Server.Request} (hraw : raw ∈ e.tables)
      (h : g.source.IsLookupOf raw q) : g.Poses greatest tenant e q
  | execute {tables : Dict Table} {q : Sql.Query}
      (hnamed : ∀ key t, tables.get? key = some t → Table.readName key = .ok t.name)
      (h : Query.plan { e with limit := some (Query.limitWithin e.limit greatest) } tenant tables
        g.tenants = .ok q) : g.Poses greatest tenant e (.execute (.select q))

/-- Nothing is asked for an expression unless it can be read and all of its tables are permitted. -/
theorem poses_answer (hc : c.IsNamed) (h : (g.answer greatest tenant query).Run c es rows c') :
    ∀ x ∈ es, ∃ e, Expression.read query = .ok e ∧
      (∀ raw ∈ e.tables, g.denials.permits raw = true) ∧ g.Poses greatest tenant e x.1 := by
  rcases run_ofExcept_bind_iff.1 h with ⟨f, -, rfl, -, -⟩ | ⟨e, hread, h⟩
  · simp
  -- a table that is not permitted ends it before anything is asked
  dsimp only at h
  split at h
  · rcases run_bind_iff.1 h with ⟨f, -, hthrow⟩ | ⟨es₁, es₂, u, c₁, -, hthrow, -⟩
    · rw [(run_throw_iff.1 hthrow).1]
      simp
    · cases (run_throw_iff.1 hthrow).2.1
  next hpermits =>
  simp only [Bool.not_eq_true', Bool.not_eq_false, List.all_eq_true] at hpermits
  suffices hposes : ∀ x ∈ es, g.Poses greatest tenant e x.1 from
    fun x hx => ⟨e, hread, hpermits, hposes x hx⟩
  have hlookups : (g.findTables .empty e.tables).Asks (g.Poses greatest tenant e) :=
    (g.asks_lookup_findTables .empty e.tables).imp fun _ ⟨raw, hraw, hq⟩ => .lookup hraw hq
  rcases run_bind_iff.1 h with ⟨f, -, h⟩ | ⟨lookups, after, tables, c₁, rfl, hfind, h⟩
  · exact hlookups h
  have hnamed := (yields_findTables (fun _ => TableSource.yields_findReadable) e.tables hfind
    (fun _ _ => trivial) hc).1 tables rfl
  refine List.forall_mem_append.2 ⟨hlookups hfind, ?_⟩
  -- what is left is the plan over the tables found, and its statement
  refine asks_ofExcept_bind (P := g.Poses greatest tenant e) (fun q hq => ?_) h
  exact (asks_execute (.execute hnamed hq)).bind fun result => asks_pure _

/-- Once all tables of an expression are permitted, what is asked names them. -/
theorem Poses.namedAs {e : Expression} {q : Server.Request} (h : g.Poses greatest tenant e q)
    (hpermits : ∀ raw ∈ e.tables, g.denials.permits raw = true) : NamedAs g.denials e.tables q := by
  refine ⟨hpermits, fun n hn => ?_⟩
  cases h with
  | @lookup raw q hraw h =>
    obtain ⟨name, hname, hq⟩ := h
    rw [hq.eq_of_mem_tables hn]
    exact ⟨raw, hraw, hname⟩
  | execute hnamed h =>
    obtain ⟨name, hmem, rfl⟩ := List.mem_map.1 hn
    obtain ⟨raw, hraw, t, ht, rfl⟩ := Query.exists_of_mem_tables h name hmem
    exact ⟨raw, hraw, hnamed raw t ht⟩

/-- For a query expression nothing goes out that the deny list keeps in. -/
theorem gated_answer (hdenials : g.denials = .parse text) (hc : c.IsNamed)
    (h : (g.answer greatest tenant query).Run c es rows c') :
    ∀ x ∈ es, Gated text (Query.tablesOf query) x.1 := by
  intro x hx
  obtain ⟨e, hread, hpermits, hposes⟩ := poses_answer hc h x hx
  have hnamed := hposes.namedAs hpermits
  rw [hdenials] at hnamed
  rw [Query.tablesOf, hread]
  exact hnamed.gated

/-- Every statement sent to answer an expression ends in its limit. -/
theorem answer_limited (hgreatest : 0 < greatest) (hc : c.IsNamed)
    (h : (g.answer greatest tenant query).Run c es rows c') :
    ∀ st ∈ statementsOf es, Query.Limits query greatest st := by
  intro st hst
  obtain ⟨x, hx, hstatement⟩ := List.mem_filterMap.1 hst
  obtain ⟨e, hread, -, hposes⟩ := poses_answer hc h x hx
  generalize x.1 = request at hposes hstatement
  cases hposes with
  | lookup hraw h =>
    obtain ⟨name, -, hq⟩ := h
    rw [hq.isRead.statement?] at hstatement
    cases hstatement
  | execute hnamed h =>
    obtain rfl := Option.some.inj hstatement
    obtain ⟨hpos, hle⟩ := Query.limitWithin_bounds e.limit hgreatest
    refine ⟨_, Query.endsInLimit_of_plan rfl hpos h, hpos, hle, ?_⟩
    intro e' n hread' hlimit hn
    obtain rfl := Except.ok.inj (hread.symm.trans hread')
    -- a limit that is read is positive, so it is kept if it is within the greatest
    have hlimitPos := Expression.limit_pos hread n hlimit
    rw [hlimit]
    exact Query.limitWithin_eq ⟨hlimitPos, hn⟩

end Gate

end TenantGate
