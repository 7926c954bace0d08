import TenantGate.Proofs.Query.Naming
import TenantGate.Proofs.Query.Outputs
/-!
# Which query expressions are accepted

An expression is planned exactly if its tables are `Grounded` and its columns `Acceptable`, and with
the tables in place a failure is about the first column mentioned that is refused (`plan_accepts`).
The mentions of columns are taken in the order in which they are looked up: the select list, the
operands of the joins, the conditions, the order.
-/

namespace TenantGate.Query

open Sql

/-! ### Columns that are refused

Refusal is a relation on the mentions of an expression and is said without the computation: a
mention is refused for what it names, for what stands beside it, or for what the select list has
before it. Which refusals are reported is a question of order, and comes after this. -/

/-- What a column is mentioned for. -/
inductive Place where
  /-- In the select list, after other columns. -/
  | shown (before : List NamedColumn)
  /-- In the condition of a join, or in the order. -/
  | plain
  /-- In a condition. -/
  | tested (op : Operator) (value : Literal)

/-- A column where an expression mentions it. -/
structure Mention where
  column : NamedColumn
  place : Place

/-- The columns of a select list, after those before. -/
def shownAfter (before : List NamedColumn) : List NamedColumn → List Mention
  | [] => []
  | r :: rest => ⟨r, .shown before⟩ :: shownAfter (before ++ [r]) rest

def JoinClause.mentions (j : JoinClause) : List Mention := [⟨j.left, .plain⟩, ⟨j.right, .plain⟩]

def WhereClause.mention (w : WhereClause) : Mention := ⟨w.column, .tested w.op w.value⟩

def OrderClause.mention (o : OrderClause) : Mention := ⟨o.column, .plain⟩

/-- The columns that an expression mentions, in the order in which they are looked up. -/
def Expression.mentions (e : Expression) : List Mention :=
  shownAfter [] e.select ++ (e.joins.flatMap JoinClause.mentions ++
    (e.wheres.map WhereClause.mention ++ e.orderBy.map OrderClause.mention))

/-- Why a name denotes no column. -/
inductive Unresolved (bound : List BoundTable) (baseAlias : String) (r : NamedColumn) :
    Reason → Prop
  | aliasName (h : r.qualifier.getD baseAlias ∉ aliases bound) :
      Unresolved bound baseAlias r .unknownAlias
  | column {b : BoundTable} (hb : b ∈ bound) (haliasName : b.aliasName = r.qualifier.getD baseAlias)
      (h : ¬ (isIdentifier (b.table.resolve r.column) = true ∧
        b.table.resolve r.column ∈ b.table.columns)) :
      Unresolved bound baseAlias r .unknownField

/-- Why a mention is refused: its name denotes no column, the column has no name of its own in the
row, or the literal beside it cannot be coerced for it. -/
inductive Refused (bound : List BoundTable) (baseAlias : String) : Mention → Reason → Prop
  | name {m : Mention} {reason : Reason} (h : Unresolved bound baseAlias m.column reason) :
      Refused bound baseAlias m reason
  | clash {before : List NamedColumn} {cs : List BoundColumn} {r : NamedColumn} {c : BoundColumn}
      (hbefore : List.Forall₂ (Denotes bound baseAlias) before cs)
      (hc : Denotes bound baseAlias r c) (h : Clashes cs c) :
      Refused bound baseAlias ⟨r, .shown before⟩ .duplicateName
  | literal {r : NamedColumn} {c : BoundColumn} {op : Comparison} {value : Literal}
      {cause : CoercionFailure} (hc : Denotes bound baseAlias r c)
      (h : coerce (c.source.table.kindOf? c.column) value.toJson = .error cause) :
      Refused bound baseAlias ⟨r, .tested (.compare op) value⟩ (.coercion cause)

/-- The failure that a mention is reported with: its text is the one field, with a reason. -/
def Reported (bound : List BoundTable) (baseAlias : String) (m : Mention) (f : Failure) : Prop :=
  ∃ reason, Refused bound baseAlias m reason ∧ f = .field m.column.written reason

variable {bound : List BoundTable} {baseAlias : String}

theorem find?_alias_eq_none_iff {a : String} :
    bound.find? (·.aliasName == a) = none ↔ a ∉ aliases bound := by
  rw [List.find?_eq_none, List.mem_map]
  simp

/-- A look-up fails exactly if the name denotes no column, and tells the reason. -/
theorem resolve_eq_error_iff (hnodup : (aliases bound).Nodup) {r : NamedColumn} {f : Failure} :
    resolve bound baseAlias r = .error f ↔
      ∃ reason, Unresolved bound baseAlias r reason ∧ f = .field r.written reason := by
  unfold resolve
  constructor
  · intro h
    -- no table has the alias, or the table that has it lacks the column
    split at h
    next hnone =>
      cases h
      exact ⟨.unknownAlias, .aliasName (find?_alias_eq_none_iff.1 hnone), rfl⟩
    next b hb =>
      obtain ⟨hmem, haliasName⟩ := (find?_alias_iff hnodup).1 hb
      dsimp only at h
      split at h
      · cases h
      next hcolumn =>
        cases h
        refine ⟨.unknownField, .column hmem haliasName ?_, rfl⟩
        rwa [Bool.and_eq_true, Table.hasColumn_iff] at hcolumn
  · rintro ⟨reason, hreason, rfl⟩
    cases hreason with
    | aliasName hnone => rw [find?_alias_eq_none_iff.2 hnone]
    | column hmem haliasName hcolumn =>
      rw [(find?_alias_iff hnodup).2 ⟨hmem, haliasName⟩]
      dsimp only
      rw [if_neg]
      rwa [Bool.and_eq_true, Table.hasColumn_iff]

/-- A name denotes a column, or there is a reason why not. -/
theorem exists_denotes_iff (hnodup : (aliases bound).Nodup) {r : NamedColumn} :
    (∃ c, Denotes bound baseAlias r c) ↔ ∀ reason, ¬ Unresolved bound baseAlias r reason := by
  simp only [← resolve_eq_ok_iff hnodup]
  constructor
  · rintro ⟨c, hc⟩ reason hreason
    rw [(resolve_eq_error_iff hnodup).2 ⟨reason, hreason, rfl⟩] at hc
    cases hc
  · intro hnone
    cases hr : resolve bound baseAlias r with
    | ok c => exact ⟨c, rfl⟩
    | error f =>
      obtain ⟨reason, hreason, -⟩ := (resolve_eq_error_iff hnodup).1 hr
      exact absurd hreason (hnone reason)

theorem forall_not_reported_iff {m : Mention} :
    (∀ f, ¬ Reported bound baseAlias m f) ↔ ∀ reason, ¬ Refused bound baseAlias m reason := by
  constructor
  · intro h reason hrefused
    exact h _ ⟨reason, hrefused, rfl⟩
  · rintro h f ⟨reason, hrefused, -⟩
    exact h reason hrefused

/-- A column that is only looked up is reported if it is not resolved. -/
theorem reported_plain_iff {r : NamedColumn} {f : Failure} :
    Reported bound baseAlias ⟨r, .plain⟩ f ↔
      ∃ reason, Unresolved bound baseAlias r reason ∧ f = .field r.written reason := by
  refine exists_congr fun reason => and_congr_left fun _ => ?_
  constructor
  · rintro ⟨h⟩
    exact h
  · exact fun h => .name h

/-- A column of the select list is reported if it is not resolved, or clashes with those before. -/
theorem reported_shown_iff (hnodup : (aliases bound).Nodup) {before : List NamedColumn}
    {cs : List BoundColumn} (hbefore : List.Forall₂ (Denotes bound baseAlias) before cs)
    {r : NamedColumn} {f : Failure} :
    Reported bound baseAlias ⟨r, .shown before⟩ f ↔
      (∃ reason, Unresolved bound baseAlias r reason ∧ f = .field r.written reason) ∨
        ∃ c, Denotes bound baseAlias r c ∧ Clashes cs c ∧ f = .field r.written .duplicateName := by
  constructor
  · rintro ⟨reason, h, rfl⟩
    cases h with
    | name h => exact .inl ⟨reason, h, rfl⟩
    | @clash _ cs' _ c hbefore' hc h =>
      have hunique : Relator.RightUnique (Denotes bound baseAlias) := by
        intro r c c'
        exact Denotes.unique hnodup
      obtain rfl := List.right_unique_forall₂' hunique hbefore hbefore'
      exact .inr ⟨c, hc, h, rfl⟩
  · rintro (⟨reason, h, rfl⟩ | ⟨c, hc, h, rfl⟩)
    · exact ⟨reason, .name h, rfl⟩
    · exact ⟨.duplicateName, .clash hbefore hc h, rfl⟩

/-- A column of a condition is reported if it is not resolved, or if its literal is compared and
cannot be coerced for it. -/
theorem reported_tested_iff {r : NamedColumn} {op : Operator} {value : Literal} {f : Failure} :
    Reported bound baseAlias ⟨r, .tested op value⟩ f ↔
      (∃ reason, Unresolved bound baseAlias r reason ∧ f = .field r.written reason) ∨
        ∃ c, Denotes bound baseAlias r c ∧ ∃ op', op = .compare op' ∧ ∃ cause,
          coerce (c.source.table.kindOf? c.column) value.toJson = .error cause ∧
            f = .field r.written (.coercion cause) := by
  constructor
  · rintro ⟨reason, h, rfl⟩
    cases h with
    | name h => exact .inl ⟨reason, h, rfl⟩
    | literal hc h => exact .inr ⟨_, hc, _, rfl, _, h, rfl⟩
  · rintro (⟨reason, h, rfl⟩ | ⟨c, hc, op', rfl, cause, h, rfl⟩)
    · exact ⟨reason, .name h, rfl⟩
    · exact ⟨.coercion cause, .literal hc h, rfl⟩

/-! ### Looking up, in order

Each function of the plan fails at the mentions that it looks up, in that order. Those of the select
list are looked up with a memory of the columns before them, so the induction carries what was met
(`Selection.Records`). -/

theorem failsAt_resolve (hnodup : (aliases bound).Nodup) (r : NamedColumn) :
    FailsAt (Reported bound baseAlias) [⟨r, .plain⟩] (resolve bound baseAlias r) :=
  failsAt_singleton fun _ => (resolve_eq_error_iff hnodup).trans reported_plain_iff.symm

/-- Look up a column of the select list and add it. -/
def pick (bound : List BoundTable) (baseAlias : String) (s : Selection) (r : NamedColumn) :
    Except Failure Selection := do
  let c ← resolve bound baseAlias r
  match s.add c with
  | some s => .ok s
  | none => .error (.field r.written .duplicateName)

theorem selectFrom_cons (s : Selection) (r : NamedColumn) (rest : List NamedColumn) :
    selectFrom bound baseAlias s (r :: rest) =
      (pick bound baseAlias s r >>= fun s => selectFrom bound baseAlias s rest) := by
  rw [selectFrom, pick, bind_assoc]
  refine congrArg _ (funext fun c => ?_)
  cases s.add c <;> rfl

theorem pick_eq_ok_iff (hnodup : (aliases bound).Nodup) {s s' : Selection} {r : NamedColumn} :
    pick bound baseAlias s r = .ok s' ↔ ∃ c, Denotes bound baseAlias r c ∧ s.add c = some s' := by
  simp only [pick, bind_eq_ok_iff, resolve_eq_ok_iff hnodup]
  refine exists_congr fun c => and_congr_right fun _ => ?_
  cases s.add c <;> simp

/-- A column is not added if it is not resolved, or if both of its names are taken. -/
theorem pick_eq_error_iff (hnodup : (aliases bound).Nodup) {s : Selection} {r : NamedColumn}
    {f : Failure} :
    pick bound baseAlias s r = .error f ↔
      (∃ reason, Unresolved bound baseAlias r reason ∧ f = .field r.written reason) ∨
        ∃ c, Denotes bound baseAlias r c ∧ s.add c = none ∧
          f = .field r.written .duplicateName := by
  simp only [pick, bind_eq_error_iff, resolve_eq_ok_iff hnodup, resolve_eq_error_iff hnodup]
  refine or_congr_right (exists_congr fun c => and_congr_right fun _ => ?_)
  cases s.add c <;> simp [eq_comm]

/-- A select list fails at the first of its columns that is refused after those before it. -/
theorem failsAt_selectFrom (hnodup : (aliases bound).Nodup) {names before : List NamedColumn}
    {s : Selection} {cs : List BoundColumn}
    (hbefore : List.Forall₂ (Denotes bound baseAlias) before cs) (hs : s.Records cs) :
    FailsAt (Reported bound baseAlias) (shownAfter before names)
      (selectFrom bound baseAlias s names) := by
  -- The induction is on the names still to come; `before` are the names behind, and `cs` what they
  -- denote.
  induction names generalizing before s cs with
  | nil => exact failsAt_ok s
  | cons r names ih =>
    have hpick : FailsAt (Reported bound baseAlias) [⟨r, .shown before⟩]
        (pick bound baseAlias s r) := by
      refine failsAt_singleton fun f => ?_
      simp only [pick_eq_error_iff hnodup, reported_shown_iff hnodup hbefore, hs.add_eq_none_iff]
    rw [selectFrom_cons]
    refine hpick.bind fun s' hs' => ?_
    obtain ⟨c, hc, hadd⟩ := (pick_eq_ok_iff hnodup).1 hs'
    exact ih (List.rel_append hbefore (.cons hc .nil)) (hs.append hadd)

theorem failsAt_outputs (hnodup : (aliases bound).Nodup) (base : BoundTable)
    (select : List NamedColumn) :
    FailsAt (Reported bound base.aliasName) (shownAfter [] select) (outputs bound base select) := by
  unfold outputs
  cases select with
  | nil => exact failsAt_ok _
  | cons r rest =>
    have hselect : FailsAt (Reported bound base.aliasName) (shownAfter [] (r :: rest))
        (selectFrom bound base.aliasName {} (r :: rest)) :=
      failsAt_selectFrom hnodup .nil Selection.records_empty
    rw [← List.append_nil (shownAfter [] (r :: rest))]
    exact hselect.bind fun s _ => failsAt_ok s.outputs

/-- A join looks up its left operand before the right one. -/
theorem failsAt_planJoin (hnodup : (aliases bound).Nodup) (j : JoinClause) (source : BoundTable) :
    FailsAt (Reported bound baseAlias) j.mentions (planJoin bound baseAlias (j, source)) := by
  refine (failsAt_resolve hnodup j.left).bind fun left _ => ?_
  exact (failsAt_resolve hnodup j.right).bind fun right _ => failsAt_ok _

theorem failsAt_planOrder (hnodup : (aliases bound).Nodup) (o : OrderClause) :
    FailsAt (Reported bound baseAlias) [o.mention] (planOrder bound baseAlias o) :=
  (failsAt_resolve hnodup o.column).bind fun c _ => failsAt_ok (c.name, o.direction)

/-- A condition looks up its column and then takes the literal. -/
theorem failsAt_planWhere (hnodup : (aliases bound).Nodup) (w : WhereClause) :
    FailsAt (Reported bound baseAlias) [w.mention] (planWhere bound baseAlias w) := by
  refine failsAt_singleton fun f => ?_
  rw [WhereClause.mention, reported_tested_iff, planWhere, bind_eq_error_iff,
    resolve_eq_error_iff hnodup]
  simp only [resolve_eq_ok_iff hnodup]
  refine or_congr_right (exists_congr fun c => and_congr_right fun _ => ?_)
  -- a pattern takes any literal, and a comparison coerces it for the column
  cases w.op with
  | like => simp [pure, Except.pure]
  | compare op =>
    simp only [Operator.compare.injEq, exists_eq_left']
    cases hvalue : coerce (c.source.table.kindOf? c.column) w.value.toJson with
    | ok v => simp [coerceField, hvalue, bind, Except.bind, pure, Except.pure]
    | error cause => simp [coerceField, hvalue, bind, Except.bind, eq_comm]

/-! ### Acceptance

Before the columns come the tables, and a plan for which those are not in place fails in other ways.
`Grounded` leaves these aside; with it only mentions are left that can go wrong. -/

variable {tables : Dict Table} {columns : TenantNaming} {tenant : Tenant} {e : Expression}
  {base : BoundTable} {joined : List BoundTable}

/-- What an expression needs before its columns are looked up: the tables that it names under
aliases that are apart, a tenant column in the base table, and a tenant whose name is a value of
every tenant column. -/
structure Grounded (tables : Dict Table) (columns : TenantNaming) (tenant : Tenant)
    (e : Expression) (base : BoundTable) (joined : List BoundTable) : Prop where
  bindsBase : Binds tables e.base base
  bindsJoins : List.Forall₂ (fun j b => Binds tables j.target b) e.joins joined
  apart : (aliases (base :: joined)).Nodup
  hasTenants : ∃ column, columns.IsColumnOf base.table column
  hasTenant : ∀ b ∈ base :: joined, ∀ column, columns.IsColumnOf b.table column →
    ∃ v, coerce (b.table.kindOf? column) (.string tenant.text) = .ok v

/-- What the columns of an expression need: each denotes one of a bound table, each literal that is
compared is a value of its column, and in the select list no column clashes with those before. -/
structure Acceptable (bound : List BoundTable) (baseAlias : String) (e : Expression) : Prop where
  columns : ∀ m ∈ e.mentions, ∃ c, Denotes bound baseAlias m.column c
  literals : ∀ w ∈ e.wheres, ∀ op c, w.op = .compare op → Denotes bound baseAlias w.column c →
    ∃ v, coerce (c.source.table.kindOf? c.column) w.value.toJson = .ok v
  names : ∀ before r after cs c, e.select = before ++ r :: after →
    List.Forall₂ (Denotes bound baseAlias) before cs → Denotes bound baseAlias r c → ¬ Clashes cs c

/-- Tables can be held to a tenant exactly if every tenant column has a value for it. -/
theorem exists_holds_iff :
    (∃ cs, Holds columns tenant bound cs) ↔
      ∀ b ∈ bound, ∀ column, columns.IsColumnOf b.table column →
        ∃ v, coerce (b.table.kindOf? column) (.string tenant.text) = .ok v := by
  induction bound with
  | nil => exact iff_of_true ⟨[], .nil⟩ (List.forall_mem_nil _)
  | cons b bound ih =>
    rw [List.forall_mem_cons, ← ih]
    -- Either direction is about the first table alone; a table has at most one tenant column.
    constructor
    · rintro ⟨cs, h⟩
      cases h with
      | @held _ _ cs column v hcolumn hvalue rest =>
        refine ⟨?_, cs, rest⟩
        intro column' hcolumn'
        have hsame := (TenantNaming.columnOf?_eq_some_iff.2 hcolumn).symm.trans
          (TenantNaming.columnOf?_eq_some_iff.2 hcolumn')
        cases hsame
        exact ⟨v, hvalue⟩
      | shared hnone rest => exact ⟨fun column hcolumn => absurd hcolumn (hnone column), cs, rest⟩
    · rintro ⟨hvalues, cs, rest⟩
      by_cases hcolumn : ∃ column, columns.IsColumnOf b.table column
      · obtain ⟨column, hcolumn⟩ := hcolumn
        obtain ⟨v, hv⟩ := hvalues column hcolumn
        exact ⟨_, .held hcolumn hv rest⟩
      · exact ⟨cs, .shared (not_exists.1 hcolumn) rest⟩

/-- Once the tables are in place, a plan fails at the first mention that is refused. -/
theorem failsAt_plan (h : Grounded tables columns tenant e base joined) :
    FailsAt (Reported (base :: joined) base.aliasName) e.mentions
      (plan e tenant tables columns) := by
  obtain ⟨column, hcolumn⟩ := h.hasTenants
  obtain ⟨tenants, htenants⟩ := exists_holds_iff.2 h.hasTenant
  have hbound : bindJoins tables 0 [base] e.joins = .ok (base :: joined) :=
    (bindJoins_eq_ok_iff (by simp)).2 ⟨joined, rfl, h.bindsJoins, h.apart⟩
  -- the operands of a join are those of its clause, whatever table it binds
  have hoperands : e.joins.flatMap JoinClause.mentions =
      (e.joins.zip joined).flatMap fun p => p.1.mentions := by
    have hlength := h.bindsJoins.length_eq
    conv_lhs => rw [← List.map_fst_zip (Nat.le_of_eq hlength)]
    rw [List.flatMap_map]
  rw [Expression.mentions, hoperands, List.map_eq_flatMap, List.map_eq_flatMap,
    ← List.append_nil (e.orderBy.flatMap _)]
  -- the steps before the columns
  refine .of_ok (bindBase_eq_ok_iff.2 h.bindsBase) ?_
  refine .of_ok hbound ?_
  refine .of_ok (TenantNaming.demandColumn_eq_ok_iff.2 hcolumn) ?_
  refine .of_ok (tenantConditions_eq_ok_iff.2 htenants) ?_
  -- the columns, clause by clause
  refine (failsAt_outputs h.apart base e.select).bind fun outs _ => ?_
  refine (failsAt_mapM fun p _ => failsAt_planJoin h.apart p.1 p.2).bind fun joins _ => ?_
  refine (failsAt_mapM fun w _ => failsAt_planWhere h.apart w).bind fun wheres _ => ?_
  exact (failsAt_mapM fun o _ => failsAt_planOrder h.apart o).bind fun order _ => failsAt_ok _

/-- A mention in the select list knows the columns before it. -/
theorem mem_shownAfter_iff {names before : List NamedColumn} {m : Mention} :
    m ∈ shownAfter before names ↔
      ∃ between r after, names = between ++ r :: after ∧ m = ⟨r, .shown (before ++ between)⟩ := by
  induction names generalizing before with
  | nil => simp [shownAfter]
  | cons r names ih =>
    rw [shownAfter, List.mem_cons, ih]
    constructor
    · rintro (rfl | ⟨between, r', after, rfl, rfl⟩)
      · exact ⟨[], r, names, rfl, by rw [List.append_nil]⟩
      · exact ⟨r :: between, r', after, rfl, by rw [List.append_assoc, List.singleton_append]⟩
    · rintro ⟨between, r', after, hnames, rfl⟩
      rcases List.cons_eq_append_iff.1 hnames with ⟨rfl, hr⟩ | ⟨between, rfl, rfl⟩
      · cases hr
        exact .inl (by rw [List.append_nil])
      · exact .inr ⟨between, r', after, rfl, by rw [List.append_assoc, List.singleton_append]⟩

/-- Each mention comes from one clause of the expression. -/
theorem mem_mentions_iff {m : Mention} :
    m ∈ e.mentions ↔
      (∃ before r after, e.select = before ++ r :: after ∧ m = ⟨r, .shown before⟩) ∨
        (∃ j ∈ e.joins, m ∈ j.mentions) ∨ (∃ w ∈ e.wheres, w.mention = m) ∨
          ∃ o ∈ e.orderBy, o.mention = m := by
  simp only [Expression.mentions, List.mem_append, mem_shownAfter_iff, List.nil_append,
    List.mem_flatMap, List.mem_map]

/-- The columns are acceptable exactly if no mention of one is refused. -/
theorem acceptable_iff (hnodup : (aliases bound).Nodup) :
    Acceptable bound baseAlias e ↔
      ∀ m ∈ e.mentions, ∀ reason, ¬ Refused bound baseAlias m reason := by
  constructor
  · intro h m hm reason hrefused
    -- for each reason the mention is traced back to its clause
    cases hrefused with
    | name hname => exact (exists_denotes_iff hnodup).1 (h.columns m hm) reason hname
    | clash hbefore hc hclash =>
      rcases mem_mentions_iff.1 hm with ⟨_, _, after, hselect, ⟨⟩⟩ | ⟨j, -, hj⟩ | ⟨w, -, ⟨⟩⟩ |
        ⟨o, -, ⟨⟩⟩
      · exact h.names _ _ after _ _ hselect hbefore hc hclash
      · simp [JoinClause.mentions] at hj
    | literal hc hcause =>
      rcases mem_mentions_iff.1 hm with ⟨_, _, after, -, ⟨⟩⟩ | ⟨j, -, hj⟩ | ⟨w, hw, hwm⟩ |
        ⟨o, -, ⟨⟩⟩
      · simp [JoinClause.mentions] at hj
      · obtain ⟨column, op, value⟩ := w
        cases hwm
        obtain ⟨v, hv⟩ := h.literals _ hw _ _ rfl hc
        rw [hv] at hcause
        cases hcause
  · intro h
    refine ⟨?_, ?_, ?_⟩
    · intro m hm
      exact (exists_denotes_iff hnodup).2 fun reason hname => h m hm reason (.name hname)
    · rintro ⟨r, _, value⟩ hw op c rfl hc
      cases hvalue : coerce (c.source.table.kindOf? c.column) value.toJson with
      | ok v => exact ⟨v, rfl⟩
      | error cause =>
        have hmention : ⟨r, .tested (.compare op) value⟩ ∈ e.mentions :=
          mem_mentions_iff.2 (.inr (.inr (.inl ⟨_, hw, rfl⟩)))
        exact absurd (.literal hc hvalue) (h _ hmention _)
    · intro before r after cs c hselect hbefore hc hclash
      have hmention : ⟨r, .shown before⟩ ∈ e.mentions :=
        mem_mentions_iff.2 (.inl ⟨before, r, after, hselect, rfl⟩)
      exact h _ hmention _ (.clash hbefore hc hclash)

/-- What is planned exactly, and what is reported otherwise. An expression is planned if and only if
its tables are in place and its columns acceptable; and with the tables in place the failure has one
field, the text of the first mention that is refused. -/
theorem plan_accepts (e : Expression) (tenant : Tenant) (tables : Dict Table)
    (columns : TenantNaming) :
    ((∃ q, plan e tenant tables columns = .ok q) ↔
      ∃ base joined, Grounded tables columns tenant e base joined ∧
        Acceptable (base :: joined) base.aliasName e) ∧
    ∀ base joined, Grounded tables columns tenant e base joined →
      ∀ f, plan e tenant tables columns = .error f ↔
        ∃ before m after reason, e.mentions = before ++ m :: after ∧
          (∀ k ∈ before, ∀ reason, ¬ Refused (base :: joined) base.aliasName k reason) ∧
          Refused (base :: joined) base.aliasName m reason ∧
          f = .field m.column.written reason := by
  have hacceptable {base : BoundTable} {joined : List BoundTable}
      (h : Grounded tables columns tenant e base joined) :
      (∃ q, plan e tenant tables columns = .ok q) ↔
        Acceptable (base :: joined) base.aliasName e := by
    simp only [(failsAt_plan h).exists_ok_iff, acceptable_iff h.apart, forall_not_reported_iff]
  constructor
  · constructor
    · rintro ⟨q, hq⟩
      obtain ⟨base, joined, tenants, -, -, -, -, hbase, hjoined, hnodup, hcolumn, htenants, -⟩ :=
        plan_eq_ok_iff.1 hq
      have h : Grounded tables columns tenant e base joined :=
        ⟨hbase, hjoined, hnodup, hcolumn, exists_holds_iff.1 ⟨tenants, htenants⟩⟩
      exact ⟨base, joined, h, (hacceptable h).1 ⟨q, hq⟩⟩
    · rintro ⟨base, joined, h, hcolumns⟩
      exact (hacceptable h).2 hcolumns
  · intro base joined h f
    rw [failsAt_plan h f]
    simp only [IsFirst, forall_not_reported_iff]
    constructor
    · rintro ⟨m, before, after, hmentions, hbefore, reason, hrefused, rfl⟩
      exact ⟨before, m, after, reason, hmentions, hbefore, hrefused, rfl⟩
    · rintro ⟨before, m, after, reason, hmentions, hbefore, hrefused, rfl⟩
      exact ⟨m, before, after, hmentions, hbefore, reason, hrefused, rfl⟩

/-- The second column `id` appears as `m_id`, unless there is a column of that name before it: then
it is refused, and so the unknown column of the condition is not looked at. -/
theorem plan_accepts_label :
    let codes : Table :=
      { schema := "public", name := "codes", primaryKey := "id"
        columns := ["id", "m_id", "company_id"] }
    let menus : Table :=
      { schema := "public", name := "menus", primaryKey := "id", columns := ["id"] }
    let tables : Dict Table := .ofList [("codes", codes), ("menus", menus)]
    let id : NamedColumn := ⟨none, "id", "id"⟩
    let other : NamedColumn := ⟨some "m", "id", "m.id"⟩
    let e : Expression :=
      { base := ⟨"codes", "codes"⟩, select := [id, other], joins := [⟨⟨"menus", "m"⟩, other, id⟩] }
    let e' : Expression :=
      { e with
        select := [id, ⟨none, "m_id", "m_id"⟩, other]
        wheres := [⟨⟨none, "ghost", "ghost"⟩, .like, .int 1⟩] }
    let tenant : Tenant := ⟨"15", by decide +kernel, by decide⟩
    let bound : List BoundTable := [⟨"codes", codes⟩, ⟨"m", menus⟩]
    (∃ base joined, Grounded tables .default tenant e base joined ∧
        Acceptable (base :: joined) base.aliasName e) ∧
      plan e' tenant tables .default = .error (.field "m.id" .duplicateName) ∧
      ∃ m ∈ e'.mentions, m.column.written = "m.id" ∧ Refused bound "codes" m .duplicateName := by
  intro codes menus tables id other e e' tenant bound
  have hplan : (plan e tenant tables .default).isOk = true := by decide +kernel
  have hfail : plan e' tenant tables .default = .error (.field "m.id" .duplicateName) := by
    decide +kernel
  have hgrounded : Grounded tables .default tenant e' ⟨"codes", codes⟩ [⟨"m", menus⟩] := by
    refine ⟨⟨by decide +kernel, by decide +kernel, rfl, by decide +kernel⟩, ?_, by decide +kernel,
      ⟨"company_id", by decide +kernel, .inl rfl⟩, ?_⟩
    · exact .cons ⟨by decide +kernel, by decide +kernel, rfl, by decide +kernel⟩ .nil
    · -- neither table has a kind for any column
      intro b hb column _
      simp only [List.mem_cons, List.not_mem_nil, or_false] at hb
      rcases hb with rfl | rfl
      · exact ⟨_, rfl⟩
      · exact ⟨_, rfl⟩
  obtain ⟨hiff, -⟩ := plan_accepts e tenant tables .default
  refine ⟨hiff.1 ?_, hfail, ?_⟩
  · cases hq : plan e tenant tables .default with
    | ok q => exact ⟨q, rfl⟩
    | error f =>
      rw [hq] at hplan
      cases hplan
  · obtain ⟨before, m, after, reason, hmentions, -, hrefused, heq⟩ :=
      ((plan_accepts e' tenant tables .default).2 _ _ hgrounded _).1 hfail
    have hentries := congrArg Dict.entries (Failure.validation.inj heq)
    obtain ⟨hwritten, rfl⟩ := Prod.mk.inj (List.singleton_inj.1 hentries)
    exact ⟨m, by rw [hmentions]; simp, hwritten.symm, hrefused⟩

end TenantGate.Query
