import TenantGate.Proofs.Data.Interpretation
import TenantGate.Proofs.Page.Statements
import TenantGate.Proofs.Sql.Writing
/-!
# The filter of a page

Both statements of a page have one `WHERE` clause: the tenant's condition, one condition for each
entry of the caller's equality filter and of the text filter, and one group of alternatives made
alike, where a text filter with a JSON null asks for nothing. `exists_filters_of_statements` says
what the clause is made of, how it is written, as which formula it is read and which rows it keeps.
-/

namespace TenantGate

/-! ### Clauses of statements

The clause is found by its first word and by the words that may come after it. That works because
none of these words stands inside a filter or in what comes before it (`Runs`). -/

namespace Sql

/-- The word that opens a `WHERE` clause, and those that may end it. -/
def Token.delimits : Token → Bool
  | .word .whereClause | .word .orderBy | .word .limit | .word .limitOne => true
  | _ => false

/-- The `WHERE` clause of a statement: what follows that word, up to an order or a limit. -/
def Statement.clause (s : Statement) : List Token :=
  ((s.tokens.dropWhile (· ≠ .word .whereClause)).drop 1).takeWhile (!·.delimits)

/-- Tokens among which a clause neither begins nor ends. -/
def Runs (ts : List Token) : Prop := ∀ k ∈ ts, k.delimits = false

theorem Runs.append {ts us : List Token} (ht : Runs ts) (hu : Runs us) : Runs (ts ++ us) :=
  List.forall_mem_append.2 ⟨ht, hu⟩

theorem Runs.cons {k : Token} {ts : List Token} (hk : k.delimits = false) (h : Runs ts) :
    Runs (k :: ts) :=
  List.forall_mem_cons.2 ⟨hk, h⟩

theorem runs_nil : Runs [] := List.forall_mem_nil _

/-- Parts with a harmless word between them. -/
theorem Runs.separated {w : Word} (hw : (Token.word w).delimits = false) {ps : List (List Token)}
    (h : ∀ p ∈ ps, Runs p) : Runs (separated w ps) :=
  separated_induction runs_nil (fun _ _ hp hts => hp.append (.cons hw hts)) h

theorem TableName.runs_tokens (t : TableName) : Runs t.tokens :=
  .cons rfl (.cons rfl (.cons rfl runs_nil))

theorem ColumnName.runs_tokens (c : ColumnName) : Runs c.tokens := by
  obtain ⟨_ | q, name⟩ := c
  · exact .cons rfl runs_nil
  · exact .cons rfl (.cons rfl (.cons rfl runs_nil))

theorem Condition.runs_tokens (c : Condition) : Runs c.tokens := by
  cases c with
  | compare column op b =>
    have hop : (Token.word op.word).delimits = false := by cases op <;> rfl
    exact column.runs_tokens.append (.cons hop (.cons rfl runs_nil))
  | isNull column => exact column.runs_tokens.append (.cons rfl runs_nil)
  | resembles column pattern =>
    exact .cons rfl (column.runs_tokens.append (.cons rfl (.cons rfl runs_nil)))

theorem runs_conditions {w : Word} (hw : (Token.word w).delimits = false) (cs : List Condition) :
    Runs (separated w (cs.map Condition.tokens)) := by
  refine Runs.separated hw fun p hp => ?_
  obtain ⟨c, -, rfl⟩ := List.mem_map.1 hp
  exact c.runs_tokens

/-- A filter holds neither the beginning of a clause nor its end. -/
theorem Filter.runs_tokens (f : Filter) : Runs f.tokens := by
  refine Runs.separated rfl fun p hp => ?_
  rcases List.mem_append.1 hp with hp | hp
  · obtain ⟨c, -, rfl⟩ := List.mem_map.1 hp
    exact c.runs_tokens
  · split at hp
    · cases hp
    · obtain rfl := List.mem_singleton.1 hp
      exact .cons rfl ((runs_conditions rfl f.any).append (.cons rfl runs_nil))

theorem Output.runs_tokens (o : Output) : Runs o.tokens := by
  obtain ⟨column, asText, label⟩ := o
  refine (column.runs_tokens.append ?_).append ?_
  · cases asText with
    | true => exact .cons rfl runs_nil
    | false => exact runs_nil
  · cases label with
    | none => exact runs_nil
    | some l => exact .cons rfl (.cons rfl runs_nil)

/-- The clause of a statement that is laid out as a head, the word, a filter and what may follow
is the filter. -/
theorem Statement.clause_eq {s : Statement} {before after : List Token} {f : Filter}
    (htokens : s.tokens = before ++ .word .whereClause :: f.tokens ++ after) (hbefore : Runs before)
    (hafter : ∀ k, after.head? = some k → k.delimits = true) : s.clause = f.tokens := by
  have hskip : s.tokens.dropWhile (· ≠ .word .whereClause) =
      .word .whereClause :: (f.tokens ++ after) := by
    rw [htokens, List.append_assoc, List.dropWhile_append_of_pos]
    · rfl
    · rintro k hk
      refine decide_eq_true ?_
      rintro rfl
      exact absurd (hbefore _ hk) (by decide)
  rw [clause, hskip, List.drop_one, List.tail_cons, List.takeWhile_append_of_pos]
  · cases after with
    | nil => rw [List.takeWhile_nil, List.append_nil]
    | cons k after =>
      rw [List.takeWhile_cons_of_neg (by simp [hafter k rfl]), List.append_nil]
  · intro k hk
    rw [f.runs_tokens k hk]
    rfl

end Sql

namespace Page

open Sql Data

variable {t : Table} {scope : Scope} {r : Listing} {w : Window}

/-! ### Entries

Each family of filters becomes a list of conditions, entry by entry in key order. What the
conditions are is said by relations on entries, which leave out how the list was made and in which
way it could fail. -/

/-- The condition that an entry of an equality filter becomes. -/
def AsksEqual (t : Table) (e : String × Json) (c : Condition) : Prop :=
  t.resolve e.1 ∈ t.columns ∧
    if e.2.isNull then c = .isNull ⟨none, t.resolve e.1⟩
    else ∃ v, coerce (t.kindOf? (t.resolve e.1)) e.2 = .ok v ∧ c = t.equals (t.resolve e.1) v

/-- The condition that an entry of a text filter becomes. -/
def AsksText (t : Table) (e : String × Json) (c : Condition) : Prop :=
  t.resolve e.1 ∈ t.columns ∧ c = .resembles ⟨none, t.resolve e.1⟩ (textPattern e.2)

/-- The entries of a text filter that ask for something. -/
def present (like : Dict Json) : List (String × Json) :=
  like.entries.filter fun e => !e.2.isNull

/-- The conditions of an equality filter and then those of a text filter, each in key order. -/
def AskedBy (t : Table) (equal like : Dict Json) (cs : List Condition) : Prop :=
  ∃ equals likes, List.Forall₂ (AsksEqual t) equal.entries equals ∧
    List.Forall₂ (AsksText t) (present like) likes ∧ cs = equals ++ likes

/-- An entry of an equality filter becomes the condition that it asks for. -/
theorem asksEqual_of_equalCondition {e : String × Json} {c : Condition}
    (h : equalCondition t e = .ok c) : AsksEqual t e c := by
  obtain ⟨column, rfl, hcolumn, hc⟩ := equalCondition_eq_ok_iff.1 h
  exact ⟨hcolumn, hc⟩

/-- The entries that ask for nothing vanish, and the others stay in their order. -/
theorem asksText_of_textCondition {entries : List (String × Json)} {cs : List (Option Condition)}
    (h : List.Forall₂ (fun e c => textCondition t e = .ok c) entries cs) :
    List.Forall₂ (AsksText t) (entries.filter fun e => !e.2.isNull) (cs.filterMap id) := by
  -- The induction is on the entries; a null makes no condition and is left out on both sides.
  induction h with
  | nil => exact .nil
  | @cons e c entries cs he _ ih =>
    obtain ⟨column, rfl, hcolumn, rfl⟩ := textCondition_eq_ok_iff.1 he
    cases hnull : e.2.isNull with
    | true => simpa [hnull] using ih
    | false => simpa [hnull] using List.Forall₂.cons ⟨hcolumn, rfl⟩ ih

/-- A family of filters becomes the conditions that it asks for. -/
theorem askedBy_of_conditions {equal like : Dict Json} {cs : List Condition}
    (h : conditions t equal like = .ok cs) : AskedBy t equal like cs := by
  obtain ⟨equals, likes, hequals, hlikes, rfl⟩ := conditions_eq_ok_iff.1 h
  exact ⟨equals, likes.filterMap id, hequals.imp fun _ _ => asksEqual_of_equalCondition,
    asksText_of_textCondition hlikes, rfl⟩

/-- The filter of the statements is the tenant's condition and what the request asks. -/
theorem exists_askedBy_of_statements {s : Statements} (h : statements t scope r w = .ok s) :
    ∃ all any, AskedBy t r.equal r.like all ∧ AskedBy t r.anyEqual r.anyLike any ∧
      s.rows.filter = ⟨t.equals scope.column scope.value :: all, any⟩ := by
  obtain ⟨columns, f, terms, -, hf, -, rfl⟩ := statements_eq_ok_iff.1 h
  obtain ⟨all, any, hall, hany, rfl⟩ := filter_eq_ok_iff.1 hf
  exact ⟨all, any, askedBy_of_conditions hall, askedBy_of_conditions hany, rfl⟩

/-- There is a condition exactly if an entry asks for something. -/
theorem AskedBy.eq_nil_iff {equal like : Dict Json} {cs : List Condition}
    (h : AskedBy t equal like cs) : cs = [] ↔ equal.entries = [] ∧ present like = [] := by
  obtain ⟨equals, likes, hequals, hlikes, rfl⟩ := h
  rw [List.append_eq_nil_iff, ← List.length_eq_zero_iff, ← List.length_eq_zero_iff,
    ← hequals.length_eq, ← hlikes.length_eq, List.length_eq_zero_iff, List.length_eq_zero_iff]

/-! ### Rows

What the conditions mean for one row, whatever a database decides by itself. A condition on a
missing value is unknown, and counts as not met. -/

section Rows

variable {Datum : Type} (I : Interpretation Datum) (row : Row Datum)

/-- The row has what an entry of an equality filter asks for: no value for a JSON null, and the
value coerced for the column otherwise. -/
def MeetsEqual (t : Table) (e : String × Json) : Prop :=
  if e.2.isNull then row (t.resolve e.1) = none
  else
    ∃ v, coerce (t.kindOf? (t.resolve e.1)) e.2 = .ok v ∧
      I.owns (t.resolve e.1) (t.bind (t.resolve e.1) v) row = true

/-- The row has a value that matches the pattern of an entry of a text filter. -/
def MeetsText (t : Table) (e : String × Json) : Prop :=
  ∃ x, row (t.resolve e.1) = some x ∧ I.resembles x (textPattern e.2) = true

variable {I row}

/-- The condition of an equality filter is true where the row has what is asked for. -/
theorem AsksEqual.truth_iff {e : String × Json} {c : Condition} (h : AsksEqual t e c) :
    I.truth [(none, row)] c = .yes ↔ MeetsEqual I row t e := by
  obtain ⟨-, hc⟩ := h
  unfold MeetsEqual
  split at hc
  · next hnull =>
    rw [if_pos hnull, hc, Interpretation.truth, Truth.ofBool_eq_yes,
      Binding.value_unqualified, Option.isNone_iff_eq_none]
  · next hnull =>
    obtain ⟨v, hv, rfl⟩ := hc
    rw [if_neg hnull]
    constructor
    · intro htruth
      exact ⟨v, hv, decide_eq_true htruth⟩
    · rintro ⟨v', hv', howns⟩
      obtain rfl : v = v' := Except.ok.inj (hv.symm.trans hv')
      exact of_decide_eq_true howns

/-- The condition of a text filter is true where the row has a value that matches. -/
theorem AsksText.truth_iff {e : String × Json} {c : Condition} (h : AsksText t e c) :
    I.truth [(none, row)] c = .yes ↔ MeetsText I row t e := by
  obtain ⟨-, rfl⟩ := h
  rw [Interpretation.truth, Binding.value_unqualified, MeetsText]
  cases row (t.resolve e.1) with
  | none => simp
  | some x => simp

/-- All conditions are true where the row has all that is asked for. -/
theorem AskedBy.forall_iff {equal like : Dict Json} {cs : List Condition}
    (h : AskedBy t equal like cs) :
    (∀ c ∈ cs, I.truth [(none, row)] c = .yes) ↔
      (∀ e ∈ equal.entries, MeetsEqual I row t e) ∧ ∀ e ∈ present like, MeetsText I row t e := by
  obtain ⟨equals, likes, hequals, hlikes, rfl⟩ := h
  rw [List.forall_mem_append, forall_iff_of_forall₂ hequals fun _ _ => AsksEqual.truth_iff,
    forall_iff_of_forall₂ hlikes fun _ _ => AsksText.truth_iff]

/-- A condition is true where the row has something that is asked for. -/
theorem AskedBy.exists_iff {equal like : Dict Json} {cs : List Condition}
    (h : AskedBy t equal like cs) :
    (∃ c ∈ cs, I.truth [(none, row)] c = .yes) ↔
      (∃ e ∈ equal.entries, MeetsEqual I row t e) ∨ ∃ e ∈ present like, MeetsText I row t e := by
  obtain ⟨equals, likes, hequals, hlikes, rfl⟩ := h
  rw [← exists_iff_of_forall₂ hequals fun _ _ => AsksEqual.truth_iff,
    ← exists_iff_of_forall₂ hlikes fun _ _ => AsksText.truth_iff]
  simp only [List.mem_append, or_and_right, exists_or]

end Rows

/-! ### The clause

The same filter stands in both statements, so its clause is read once for both. -/

/-- The formula of the tenant's condition, further conditions, and alternatives if there are any. -/
def formulaOf (c : Condition) (all : List Condition) : List Condition → Formula
  | [] => (Formula.test c).andAll all
  | d :: any => ((Formula.test c).andAll all).and ((Formula.test d).orAny any)

/-- Both statements of a page have the same `WHERE` clause. -/
theorem clause_of_statements {s : Statements} (h : statements t scope r w = .ok s) :
    s.page.clause = s.rows.filter.tokens ∧ s.total.clause = s.rows.filter.tokens := by
  obtain ⟨columns, f, terms, -, -, -, rfl⟩ := statements_eq_ok_iff.1 h
  constructor
  · have htokens := Query.tokens_eq
      { outputs := columns.map (t.output none), table := t.sqlName, filter := f, order := terms
        extent := .slice w.limit w.offset }
    refine Statement.clause_eq htokens ?_ ?_
    · -- the select list and the table, with neither an alias nor joins
      have houtputs : Runs (separated .comma ((columns.map (t.output none)).map Output.tokens)) :=
        Runs.separated rfl fun p hp => by
          obtain ⟨o, -, rfl⟩ := List.mem_map.1 hp
          exact o.runs_tokens
      have hselect : Runs (.word .select ::
          separated .comma ((columns.map (t.output none)).map Output.tokens)) := .cons rfl houtputs
      have htable : Runs (.word .fromTable :: t.sqlName.tokens) := .cons rfl t.sqlName.runs_tokens
      exact ((hselect.append htable).append runs_nil).append runs_nil
    · intro k hk
      cases terms with
      | nil =>
        cases hk
        rfl
      | cons term terms =>
        cases hk
        rfl
  · have htokens : (Statement.count t.sqlName f).tokens =
        (.word .selectCount :: .word .fromTable :: t.sqlName.tokens) ++
          .word .whereClause :: f.tokens ++ [] := by
      simp [Statement.tokens]
    refine Statement.clause_eq htokens (.cons rfl (.cons rfl t.sqlName.runs_tokens)) ?_
    rintro k ⟨⟩

/-- The tokens of such a filter are read as its formula. -/
theorem read_formulaOf (c : Condition) (all any : List Condition) :
    Formula.ofTokens? (Filter.tokens ⟨c :: all, any⟩) = some (formulaOf c all any) := by
  rw [Filter.read_tokens]
  cases any with
  | nil => rfl
  | cons d any => rfl

/-- What the two statements of a page ask of a row: `all` is what the caller requires beside the
tenant, `any` are the alternatives. -/
structure Statements.Filters (t : Table) (scope : Scope) (r : Listing) (s : Statements)
    (all any : List Condition) : Prop where
  required : AskedBy t r.equal r.like all
  alternatives : AskedBy t r.anyEqual r.anyLike any
  grouped : any ≠ [] ↔ r.anyEqual.entries ≠ [] ∨ present r.anyLike ≠ []
  rows : s.rows.filter = ⟨t.equals scope.column scope.value :: all, any⟩
  count : s.count = (t.sqlName, s.rows.filter)
  pageText : s.page.text =
    "SELECT " ++ ", ".intercalate (s.rows.outputs.map Output.written) ++ " FROM " ++
      t.sqlName.written ++ " WHERE " ++ s.rows.filter.written 0 ++ orderWritten s.rows.order ++
      s.rows.extent.written s.rows.filter.values.length
  totalText : s.total.text =
    "SELECT COUNT(*) AS total FROM " ++ t.sqlName.written ++ " WHERE " ++ s.rows.filter.written 0
  /-- Both statements have the same clause, and it is read as the formula. -/
  read : ∀ st ∈ [s.page, s.total],
    Formula.ofTokens? st.clause = some (formulaOf (t.equals scope.column scope.value) all any)
  /-- A row is kept if it is the tenant's, has all that is required and, with alternatives, has one
  of them. -/
  keeps : ∀ {Datum : Type} (I : Interpretation Datum) (row : Row Datum),
    I.keeps s.rows.filter [(none, row)] = true ↔
      I.owns scope.column (t.bound scope) row = true ∧
      (∀ e ∈ r.equal.entries, MeetsEqual I row t e) ∧
      (∀ e ∈ present r.like, MeetsText I row t e) ∧
      (r.anyEqual.entries = [] ∧ present r.anyLike = [] ∨
        (∃ e ∈ r.anyEqual.entries, MeetsEqual I row t e) ∨
        ∃ e ∈ present r.anyLike, MeetsText I row t e)

/-- The filter of a page is the tenant's condition, those of the caller's filters and, if there is
one, the group of alternatives: in its text, as a formula, and for every row. -/
theorem exists_filters_of_statements {s : Statements} (h : statements t scope r w = .ok s) :
    ∃ all any, s.Filters t scope r all any := by
  obtain ⟨all, any, hrequired, halternatives, hfilter⟩ := exists_askedBy_of_statements h
  obtain ⟨hpage, htotal⟩ := clause_of_statements h
  obtain ⟨columns, f, terms, -, -, -, rfl⟩ := statements_eq_ok_iff.1 h
  obtain rfl : f = ⟨t.equals scope.column scope.value :: all, any⟩ := hfilter
  -- the parts of `Statements.Filters` in their order; those that hold by definition are given at
  -- once
  refine ⟨all, any, hrequired, halternatives, ?_, rfl, rfl, ?_, Statement.text_count _ _, ?_, ?_⟩
  · rw [ne_eq, halternatives.eq_nil_iff, not_and_or]
  · rw [Statements.page, Statement.text_select, Query.written]
    simp [aliasWritten, String.join_nil]
  · intro st hst
    have hclause : st.clause = Filter.tokens ⟨t.equals scope.column scope.value :: all, any⟩ := by
      rcases List.mem_cons.1 hst with rfl | hst
      · exact hpage
      · obtain rfl := List.mem_singleton.1 hst
        exact htotal
    rw [hclause, read_formulaOf]
  · intro Datum I row
    have htenant : I.truth [(none, row)] (t.equals scope.column scope.value) = .yes ↔
        I.owns scope.column (t.bound scope) row = true := by
      rw [Interpretation.owns, decide_eq_true_iff]
      rfl
    show Filter.meets _ _ = true ↔ _
    rw [Filter.meets_iff (by simp), List.forall_mem_cons, htenant, hrequired.forall_iff,
      halternatives.eq_nil_iff, halternatives.exists_iff, and_assoc, and_assoc]

/-- Of the text filters one is null in each family, and so only one alternative is left. -/
theorem exists_filters_of_statements_nulls :
    let t : Table :=
      { schema := "public", name := "notes", primaryKey := "id"
        columns := ["id", "title", "body", "company_id"], kinds := .singleton "id" .int }
    let scope : Scope := ⟨"company_id", .text "10"⟩
    let r : Listing :=
      { equal := .ofList [("body", .null), ("id", .string "7")]
        like := .ofList [("body", .null), ("title", .string "a")]
        anyLike := .ofList [("body", .string "b%"), ("title", .null)] }
    let filter : Filter :=
      ⟨[.compare ⟨none, "company_id"⟩ .equal ⟨.text "10", none⟩, .isNull ⟨none, "body"⟩,
          .compare ⟨none, "id"⟩ .equal ⟨.int 7, none⟩, .resembles ⟨none, "title"⟩ "%a%"],
        [.resembles ⟨none, "body"⟩ "b%"]⟩
    let text : String :=
      "SELECT COUNT(*) AS total FROM \"public\".\"notes\" WHERE " ++
        "\"company_id\" = $1 AND \"body\" IS NULL AND \"id\" = $2 AND " ++
        "CAST(\"title\" AS TEXT) ILIKE $3 AND (CAST(\"body\" AS TEXT) ILIKE $4)"
    ∃ s all any, statements t scope r (r.window 25) = .ok s ∧ s.rows.filter = filter ∧
      s.total.text = text ∧ s.Filters t scope r all any := by
  intro t scope r filter text
  have hmade : (statements t scope r (r.window 25)).toOption.map
      (fun s => (s.rows.filter, s.total.text)) = some (filter, text) := by
    decide +kernel
  obtain ⟨s, hs, hmade⟩ := Option.map_eq_some_iff.1 hmade
  have hstatements := toOption_eq_some_iff.1 hs
  obtain ⟨hfilter, htext⟩ := Prod.mk.inj hmade
  obtain ⟨all, any, h⟩ := exists_filters_of_statements hstatements
  exact ⟨s, all, any, hstatements, hfilter, htext, h⟩

end Page
end TenantGate
