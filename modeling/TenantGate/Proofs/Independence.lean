import TenantGate.Proofs.Page.Statements
import TenantGate.Proofs.Query.Plan
import TenantGate.Proofs.Sql.Form
/-!
# Texts do not depend on values

Two query expressions that differ in the values of their conditions and in a positive limit alone
(`Expression.Alike`) are planned as statements of one form, whoever the tenants are; and so are the
two statements of page requests that differ in the values of their filters and in the page that is
asked for (`Listing.Alike`). What a statement says is settled by names and by which values are JSON
nulls; everything else about a value, also whether it was coerced to none, is left to its parameter.
-/

namespace TenantGate

open Sql

/-- Lists that are related to related lists have the same images, if it is so for their elements. -/
theorem map_eq_of_forall₂ {α α' β β' γ : Type} {R : α → β → Prop} {R' : α' → β' → Prop}
    {T : α → α' → Prop} {g : β → γ} {g' : β' → γ} {l : List α} {l' : List α'} {r : List β}
    {r' : List β'} (hl : List.Forall₂ R l r) (hl' : List.Forall₂ R' l' r')
    (hT : List.Forall₂ T l l') (h : ∀ a a' b b', T a a' → R a b → R' a' b' → g b = g' b') :
    r.map g = r'.map g' := by
  induction hT generalizing r r' with
  | nil =>
    cases hl
    cases hl'
    rfl
  | cons ht _ ih =>
    cases hl with
    | cons ha hl =>
    cases hl' with
    | cons ha' hl' => rw [List.map_cons, List.map_cons, h _ _ _ _ ht ha ha', ih hl hl']

/-! ### Query expressions

Two plans are compared step by step. What depends on names alone is the same in both; what depends
on values has at least the same form. -/

namespace Query

/-- Two expressions differ in the values of their conditions and in a positive limit alone. -/
structure Expression.Alike (e₁ e₂ : Expression) : Prop where
  base : e₁.base = e₂.base
  select : e₁.select = e₂.select
  joins : e₁.joins = e₂.joins
  wheres : List.Forall₂ (fun w₁ w₂ => w₁.column = w₂.column ∧ w₁.op = w₂.op) e₁.wheres e₂.wheres
  orderBy : e₁.orderBy = e₂.orderBy
  limit : e₁.limit = e₂.limit ∨
    ∃ m n, e₁.limit = some m ∧ e₂.limit = some n ∧ 0 < m ∧ 0 < n

variable {tables : Dict Table} {columns : TenantNaming} {tenant₁ tenant₂ : Tenant}
  {bound : List BoundTable} {baseAlias : String}

/-- Whoever the tenants are, the tables are held to them by conditions of one form. -/
theorem Holds.map_form {cs₁ cs₂ : List Condition} (h₁ : Holds columns tenant₁ bound cs₁)
    (h₂ : Holds columns tenant₂ bound cs₂) :
    cs₁.map Condition.form = cs₂.map Condition.form := by
  -- The induction is on how the first conditions were made. Whether a table has a tenant column is
  -- the same question for both.
  induction h₁ generalizing cs₂ with
  | nil =>
    cases h₂
    rfl
  | held hcolumn _ _ ih =>
    cases h₂ with
    | shared hnone _ => exact absurd hcolumn (hnone _)
    | held hcolumn' _ rest =>
      have hsame := (TenantNaming.columnOf?_eq_some_iff.2 hcolumn).symm.trans
        (TenantNaming.columnOf?_eq_some_iff.2 hcolumn')
      cases hsame
      rw [List.map_cons, List.map_cons, ih rest]
      rfl
  | shared hnone _ ih =>
    cases h₂ with
    | shared _ rest => exact ih rest
    | held hcolumn _ _ => exact absurd hcolumn (hnone _)

/-- Whatever the values are, a condition on one column with one operator has one form. -/
theorem Asks.form_eq (hnodup : (aliases bound).Nodup) {w₁ w₂ : WhereClause} {c₁ c₂ : Condition}
    (hw : w₁.column = w₂.column ∧ w₁.op = w₂.op) (h₁ : Asks bound baseAlias w₁ c₁)
    (h₂ : Asks bound baseAlias w₂ c₂) : c₁.form = c₂.form := by
  obtain ⟨hcolumn, hop⟩ := hw
  obtain ⟨r, hr, hasked₁⟩ := h₁
  obtain ⟨r', hr', hasked₂⟩ := h₂
  rw [hcolumn] at hr
  obtain rfl := hr.unique hnodup hr'
  rw [hop] at hasked₁
  -- a pattern and a comparison are written differently, but the operator is the same for both
  split at hasked₁
  · next hlike =>
    rw [hlike] at hasked₂
    rw [hasked₁, hasked₂]
    simp [Condition.form, Condition.tokens, Token.form, Bound.form]
  · next op hcompare =>
    rw [hcompare] at hasked₂
    obtain ⟨v₁, -, rfl⟩ := hasked₁
    obtain ⟨v₂, -, rfl⟩ := hasked₂
    simp [Condition.form, Condition.tokens, Token.form, Bound.form]

/-- Positive limits make extents of one form. -/
theorem form_extentOf {l₁ l₂ : Option Int64}
    (h : l₁ = l₂ ∨ ∃ m n, l₁ = some m ∧ l₂ = some n ∧ 0 < m ∧ 0 < n) :
    form (extentOf l₁).tokens = form (extentOf l₂).tokens := by
  rcases h with rfl | ⟨m, n, rfl, rfl, hm, hn⟩
  · rfl
  · simp only [extentOf, if_pos hm, if_pos hn]
    rfl

/-- Expressions that are alike are planned as statements that are alike, for any two tenants. -/
theorem plan_alike {e₁ e₂ : Expression} {q₁ q₂ : Sql.Query} (h : e₁.Alike e₂)
    (h₁ : plan e₁ tenant₁ tables columns = .ok q₁) (h₂ : plan e₂ tenant₂ tables columns = .ok q₂) :
    (Statement.select q₁).Alike (.select q₂) := by
  obtain ⟨base, joined, tenants₁, outs, joins, wheres₁, order, hbase, hjoined, hnodup, -,
    htenants₁, houts, hjoins, hwheres₁, horder, rfl⟩ := plan_eq_ok_iff.1 h₁
  obtain ⟨base', joined', tenants₂, outs', joins', wheres₂, order', hbase', hjoined', -, -,
    htenants₂, houts', hjoins', hwheres₂, horder', rfl⟩ := plan_eq_ok_iff.1 h₂
  rw [← h.base] at hbase'
  rw [← h.joins] at hjoined' hjoins'
  rw [← h.select] at houts'
  rw [← h.orderBy] at horder'
  -- the tables are the same, and so is whatever the names alone settle
  obtain rfl := hbase.unique hbase'
  obtain rfl := List.right_unique_forall₂' (fun _ _ _ hb hb' => hb.unique hb') hjoined hjoined'
  obtain rfl : outs = outs' := Except.ok.inj (houts.symm.trans houts')
  obtain rfl : joins = joins' :=
    Except.ok.inj ((mapM_eq_ok_iff.2 hjoins).symm.trans (mapM_eq_ok_iff.2 hjoins'))
  obtain rfl : order = order' :=
    Except.ok.inj ((mapM_eq_ok_iff.2 horder).symm.trans (mapM_eq_ok_iff.2 horder'))
  have hwheres : wheres₁.map Condition.form = wheres₂.map Condition.form :=
    map_eq_of_forall₂ hwheres₁ hwheres₂ h.wheres fun _ _ _ _ hw hc₁ hc₂ =>
      hc₁.form_eq hnodup hw hc₂
  refine Statement.alike_of_form (Query.form_tokens rfl rfl rfl rfl ?_ rfl (form_extentOf h.limit))
  refine Filter.form_tokens ?_ rfl
  rw [List.map_append, List.map_append, htenants₁.map_form htenants₂, hwheres]

end Query

/-! ### Page requests

A filter has one condition for each of its entries, and none for a text filter that is null. So the
entries need the same keys, and nulls in the same places. -/

/-- Two filters have the same keys, and the same of them ask for no value. -/
def Dict.Alike (d₁ d₂ : Dict Json) : Prop :=
  List.Forall₂ (fun e₁ e₂ => e₁.1 = e₂.1 ∧ e₁.2.isNull = e₂.2.isNull) d₁.entries d₂.entries

/-- Two page requests differ in the values of their filters, in the page that they ask for and in
whether they want its total, and not in which values are JSON nulls. -/
structure Listing.Alike (r₁ r₂ : Listing) : Prop where
  select : r₁.select = r₂.select
  equal : r₁.equal.Alike r₂.equal
  anyEqual : r₁.anyEqual.Alike r₂.anyEqual
  like : r₁.like.Alike r₂.like
  anyLike : r₁.anyLike.Alike r₂.anyLike
  orderBy : r₁.orderBy = r₂.orderBy

namespace Page

variable {t : Table} {scope₁ scope₂ : Scope}

/-- Entries of equality filters that are alike make conditions of one form. -/
theorem equalCondition_form {e₁ e₂ : String × Json} {c₁ c₂ : Condition}
    (he : e₁.1 = e₂.1 ∧ e₁.2.isNull = e₂.2.isNull) (h₁ : equalCondition t e₁ = .ok c₁)
    (h₂ : equalCondition t e₂ = .ok c₂) : c₁.form = c₂.form := by
  obtain ⟨name, v₁⟩ := e₁
  obtain ⟨_, v₂⟩ := e₂
  obtain ⟨rfl, hnull⟩ := he
  obtain ⟨_, rfl, -, hc₁⟩ := equalCondition_eq_ok_iff.1 h₁
  obtain ⟨_, rfl, -, hc₂⟩ := equalCondition_eq_ok_iff.1 h₂
  dsimp only at hnull
  rw [hnull] at hc₁
  -- a null is asked for by its own condition, and any other value by an equation
  split at hc₁
  · next hv =>
    rw [if_pos hv] at hc₂
    rw [hc₁, hc₂]
  · next hv =>
    rw [if_neg hv] at hc₂
    obtain ⟨w₁, -, rfl⟩ := hc₁
    obtain ⟨w₂, -, rfl⟩ := hc₂
    simp [Condition.form, Condition.tokens, Table.equals, Table.bind, Token.form, Bound.form]

/-- Entries of text filters that are alike make conditions of one form, or none. -/
theorem textCondition_form {e₁ e₂ : String × Json} {c₁ c₂ : Option Condition}
    (he : e₁.1 = e₂.1 ∧ e₁.2.isNull = e₂.2.isNull) (h₁ : textCondition t e₁ = .ok c₁)
    (h₂ : textCondition t e₂ = .ok c₂) : c₁.map Condition.form = c₂.map Condition.form := by
  obtain ⟨name, v₁⟩ := e₁
  obtain ⟨_, v₂⟩ := e₂
  obtain ⟨rfl, hnull⟩ := he
  obtain ⟨_, rfl, -, rfl⟩ := textCondition_eq_ok_iff.1 h₁
  obtain ⟨_, rfl, -, rfl⟩ := textCondition_eq_ok_iff.1 h₂
  dsimp only at hnull
  rw [hnull]
  split
  · rfl
  · simp [Condition.form, Condition.tokens, Token.form, Bound.form]

/-- Filters that are alike make conditions of one form. -/
theorem conditions_form {equal₁ equal₂ like₁ like₂ : Dict Json} {cs₁ cs₂ : List Condition}
    (hequal : equal₁.Alike equal₂) (hlike : like₁.Alike like₂)
    (h₁ : conditions t equal₁ like₁ = .ok cs₁) (h₂ : conditions t equal₂ like₂ = .ok cs₂) :
    cs₁.map Condition.form = cs₂.map Condition.form := by
  obtain ⟨equals₁, likes₁, hequals₁, hlikes₁, rfl⟩ := conditions_eq_ok_iff.1 h₁
  obtain ⟨equals₂, likes₂, hequals₂, hlikes₂, rfl⟩ := conditions_eq_ok_iff.1 h₂
  have hequals : equals₁.map Condition.form = equals₂.map Condition.form :=
    map_eq_of_forall₂ hequals₁ hequals₂ hequal fun _ _ _ _ => equalCondition_form
  have hlikes : likes₁.map (Option.map Condition.form) = likes₂.map (Option.map Condition.form) :=
    map_eq_of_forall₂ hlikes₁ hlikes₂ hlike fun _ _ _ _ => textCondition_form
  -- the entries that ask for nothing are the same in both
  have hasked (likes : List (Option Condition)) : (likes.filterMap id).map Condition.form =
      (likes.map (Option.map Condition.form)).filterMap id := by
    rw [List.map_filterMap, List.filterMap_map]
    rfl
  rw [List.map_append, List.map_append, hequals, hasked, hasked, hlikes]

/-- Page requests that are alike are made into statements that are alike, whatever the values of the
scopes and the windows are. -/
theorem statements_alike {r₁ r₂ : Listing} {w₁ w₂ : Window} {s₁ s₂ : Statements}
    (hscope : scope₁.column = scope₂.column) (h : r₁.Alike r₂)
    (h₁ : statements t scope₁ r₁ w₁ = .ok s₁) (h₂ : statements t scope₂ r₂ w₂ = .ok s₂) :
    s₁.page.Alike s₂.page ∧ s₁.total.Alike s₂.total := by
  obtain ⟨columns, f₁, terms, hcolumns, hf₁, hterms, rfl⟩ := statements_eq_ok_iff.1 h₁
  obtain ⟨columns', f₂, terms', hcolumns', hf₂, hterms', rfl⟩ := statements_eq_ok_iff.1 h₂
  rw [h.select] at hcolumns
  rw [h.orderBy] at hterms
  obtain rfl : columns = columns' := Except.ok.inj (hcolumns.symm.trans hcolumns')
  obtain rfl : terms = terms' := Except.ok.inj (hterms.symm.trans hterms')
  obtain ⟨all₁, any₁, hall₁, hany₁, rfl⟩ := filter_eq_ok_iff.1 hf₁
  obtain ⟨all₂, any₂, hall₂, hany₂, rfl⟩ := filter_eq_ok_iff.1 hf₂
  have htenant : (t.equals scope₁.column scope₁.value).form =
      (t.equals scope₂.column scope₂.value).form := by
    rw [hscope]
    simp [Condition.form, Condition.tokens, Table.equals, Table.bind, Token.form, Bound.form]
  have hfilter : form (Filter.tokens ⟨t.equals scope₁.column scope₁.value :: all₁, any₁⟩) =
      form (Filter.tokens ⟨t.equals scope₂.column scope₂.value :: all₂, any₂⟩) := by
    refine Filter.form_tokens ?_ (conditions_form h.anyEqual h.anyLike hany₁ hany₂)
    rw [List.map_cons, List.map_cons, htenant, conditions_form h.equal h.like hall₁ hall₂]
  -- the count has the filter alone, and the page the other clauses as well
  refine ⟨Statement.alike_of_form (Query.form_tokens rfl rfl rfl rfl hfilter rfl rfl),
    Statement.alike_of_form ?_⟩
  simp only [Statements.total, Statement.tokens, form_append, form_cons, hfilter]

end Page

/-! ### Values do not show

The two results side by side. -/

/-- No text depends on a value. Query expressions that differ in the values of their conditions and
in a positive limit alone, asked by any two tenants, become statements that differ in their values
alone; and so do both statements of page requests that differ in the values of their filters and in
the page, as long as the same values are JSON nulls. A value that is coerced to none is bound like
any other, so it does not matter which of them are. -/
theorem statements_differ_in_values :
    (∀ (e₁ e₂ : Query.Expression) (tenant₁ tenant₂ : Tenant) (tables : Dict Table)
      (columns : TenantNaming) (q₁ q₂ : Sql.Query), e₁.Alike e₂ →
      Query.plan e₁ tenant₁ tables columns = .ok q₁ →
      Query.plan e₂ tenant₂ tables columns = .ok q₂ →
      (Statement.select q₁).Alike (.select q₂)) ∧
    (∀ (t : Table) (scope₁ scope₂ : Scope) (r₁ r₂ : Listing) (w₁ w₂ : Window)
      (s₁ s₂ : Page.Statements), scope₁.column = scope₂.column → r₁.Alike r₂ →
      Page.statements t scope₁ r₁ w₁ = .ok s₁ → Page.statements t scope₂ r₂ w₂ = .ok s₂ →
      s₁.page.Alike s₂.page ∧ s₁.total.Alike s₂.total) :=
  ⟨fun _ _ _ _ _ _ _ _ => Query.plan_alike, fun _ _ _ _ _ _ _ _ _ => Page.statements_alike⟩

/-- A quoted text that would end a literal, and a blank one that is coerced to none, leave the texts
as they are. -/
theorem statements_differ_in_values_quoted :
    let t : Table :=
      { schema := "public", name := "notes", primaryKey := "id"
        columns := ["id", "name", "company_id"], kinds := .singleton "id" .int }
    let tables : Dict Table := .singleton "notes" t
    let name : Query.NamedColumn := ⟨none, "name", "name"⟩
    let e (value : Query.Literal) (limit : Int64) : Query.Expression :=
      { base := ⟨"notes", "n"⟩, wheres := [⟨name, .compare .equal, value⟩], limit := some limit }
    let tenant₁ : Tenant := ⟨"3", by decide +kernel, by decide⟩
    let tenant₂ : Tenant := ⟨"acme", by decide +kernel, by decide⟩
    let r (id : Json) (page : Int64) : Listing :=
      { equal := .singleton "id" id, anyLike := .singleton "name" (.string "x"), page := some page }
    let r₁ := r (.string " ") 1
    let r₂ := r (.string "7") 3
    let scope₁ : Scope := ⟨"company_id", .text "3"⟩
    let scope₂ : Scope := ⟨"company_id", .text "acme"⟩
    (e (.text "x' OR 1 = 1 --") 5).Alike (e (.int 7) 200) ∧ r₁.Alike r₂ ∧
      (∃ q₁ q₂, Query.plan (e (.text "x' OR 1 = 1 --") 5) tenant₁ tables .default = .ok q₁ ∧
        Query.plan (e (.int 7) 200) tenant₂ tables .default = .ok q₂ ∧
        (Statement.select q₁).Alike (.select q₂)) ∧
      ∃ s₁ s₂, Page.statements t scope₁ r₁ (r₁.window 25) = .ok s₁ ∧
        Page.statements t scope₂ r₂ (r₂.window 25) = .ok s₂ ∧
        s₁.page.Alike s₂.page ∧ s₁.total.Alike s₂.total := by
  intro t tables name e tenant₁ tenant₂ r r₁ r₂ scope₁ scope₂
  have he : (e (.text "x' OR 1 = 1 --") 5).Alike (e (.int 7) 200) :=
    ⟨rfl, rfl, rfl, .cons ⟨rfl, rfl⟩ .nil, rfl, .inr ⟨5, 200, rfl, rfl, by decide, by decide⟩⟩
  have hr : r₁.Alike r₂ :=
    ⟨rfl, .cons ⟨rfl, rfl⟩ .nil, .nil, .nil, .cons ⟨rfl, rfl⟩ .nil, rfl⟩
  refine ⟨he, hr, ?_, ?_⟩
  · have h₁ : (Query.plan (e (.text "x' OR 1 = 1 --") 5) tenant₁ tables
        .default).toOption.isSome = true := by decide +kernel
    have h₂ : (Query.plan (e (.int 7) 200) tenant₂ tables .default).toOption.isSome = true := by
      decide +kernel
    obtain ⟨q₁, hq₁⟩ := Option.isSome_iff_exists.1 h₁
    obtain ⟨q₂, hq₂⟩ := Option.isSome_iff_exists.1 h₂
    rw [toOption_eq_some_iff] at hq₁ hq₂
    exact ⟨q₁, q₂, hq₁, hq₂,
      statements_differ_in_values.1 _ _ tenant₁ tenant₂ tables .default q₁ q₂ he hq₁ hq₂⟩
  · have h₁ : (Page.statements t scope₁ r₁ (r₁.window 25)).toOption.isSome = true := by
      decide +kernel
    have h₂ : (Page.statements t scope₂ r₂ (r₂.window 25)).toOption.isSome = true := by
      decide +kernel
    obtain ⟨s₁, hs₁⟩ := Option.isSome_iff_exists.1 h₁
    obtain ⟨s₂, hs₂⟩ := Option.isSome_iff_exists.1 h₂
    rw [toOption_eq_some_iff] at hs₁ hs₂
    exact ⟨s₁, s₂, hs₁, hs₂,
      statements_differ_in_values.2 t scope₁ scope₂ r₁ r₂ _ _ s₁ s₂ rfl hr hs₁ hs₂⟩

end TenantGate
