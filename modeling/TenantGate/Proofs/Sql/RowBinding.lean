import TenantGate.Proofs.Sql.Numbering
/-!
# Statements bound to a value

A statement is bound to a value in a column when it cannot reach a row that has another value there:
a row that it adds gets the value, and rows that it reads, counts, changes or removes are asked to
have it, by a condition that no alternative can weaken. `BoundTo` says so of the statement as data,
`ShownBound` of the text and the parameters that are sent; the first gives the second
(`BoundTo.shownBound`).
-/

namespace TenantGate.Sql

/-- The column has to equal the bound value, whatever else is asked. -/
def Filter.Demands (f : Filter) (column : String) (b : Bound) : Prop :=
  .compare ⟨none, column⟩ .equal b ∈ f.all

/-- The statement is about one table, and bound to the value in the column: an insertion assigns the
column once, and that value; any other statement demands it, and an update leaves the column as it
is. -/
def Statement.BoundTo (table : TableName) (column : String) (b : Bound) : Statement → Prop
  | insert t assignments _ =>
    t = table ∧ assignments.filter (·.column = column) = [⟨column, b⟩]
  | select q =>
    q.table = table ∧ q.aliasName = none ∧ q.joins = [] ∧ q.filter.Demands column b
  | count t f => t = table ∧ f.Demands column b
  | update t assignments f =>
    t = table ∧ f.Demands column b ∧ ∀ a ∈ assignments, a.column ≠ column
  | delete t f => t = table ∧ f.Demands column b
  | ping => False

/-! ### In the text

The same is said of what is sent, without looking at the statement as data: the text has the column
and a placeholder at matching places, and the parameter of that placeholder is the value. -/

/-- The text lists columns and placeholders side by side; one of the columns is the one given, and
its placeholder is bound to the value. -/
def Statement.ListsBound (s : Statement) (column : String) (b : Bound) : Prop :=
  ∃ head tail columns places i,
    s.text = head ++ " (" ++ ", ".intercalate columns ++ ") VALUES (" ++ ", ".intercalate places
      ++ ")" ++ tail ∧
    columns[i]? = some (quoteName column) ∧
    places[i]? = some (placeholder (i + 1) b.castTo) ∧
    s.parameters[i]? = some b.value

/-- One of the parts between the `AND`s of the text is `column = $k`, and `$k` is bound to the
value. -/
def Statement.AsksBound (s : Statement) (column : String) (b : Bound) : Prop :=
  ∃ head tail parts k,
    s.text = head ++ " WHERE " ++ " AND ".intercalate parts ++ tail ∧
    quoteName column ++ " = " ++ placeholder (k + 1) b.castTo ∈ parts ∧
    s.parameters[k]? = some b.value

/-- The text of the statement shows that it is bound to the value in the column. -/
def Statement.ShownBound (column : String) (b : Bound) (s : Statement) : Prop :=
  match s with
  | insert .. => s.ListsBound column b
  | _ => s.AsksBound column b

/-! ### Insertions

A row is laid out as a list of columns and a list of places; the two lists run side by side, so that
one index finds a column, its place and its parameter. -/

/-- A list of columns is written as their quoted names. -/
theorem textsFrom_names (n : Nat) (columns : List String) :
    textsFrom n (columns.map fun c => [.name c]) = columns.map quoteName := by
  induction columns with
  | nil => rfl
  | cons c columns ih => simpa using ih

/-- The places of a row are numbered one after another. -/
theorem textsFrom_places (n : Nat) (assignments : List Assignment) :
    textsFrom n (assignments.map fun a => [.bound a.value]) =
      assignments.mapIdx fun i a => placeholder (n + i) a.value.castTo := by
  rw [textsFrom_eq_mapIdx (by simp)]
  refine List.ext_getElem? fun i => ?_
  simp [Function.comp_def]

@[simp] theorem boundValues_separated_names (columns : List String) :
    boundValues (separated .comma (columns.map fun c => [.name c])) = [] :=
  boundValues_separated_eq_nil (by simp)

/-- The values of assignments are bound in their order. -/
@[simp] theorem boundValues_separated_places (assignments : List Assignment) :
    boundValues (separated .comma (assignments.map fun a => [.bound a.value])) =
      assignments.map (·.value.value) := by
  rw [boundValues_separated, List.flatMap_map, List.map_eq_flatMap]
  rfl

/-- The tokens of an insertion that assigns something. -/
theorem Statement.tokens_insert {table : TableName} {assignments : List Assignment}
    {returning : Output} (h : assignments ≠ []) :
    (insert table assignments returning).tokens =
      .word .insertInto :: table.tokens ++ .word .openList ::
        separated .comma ((assignments.map (·.column)).map fun c => [.name c]) ++ .word .values ::
        separated .comma (assignments.map fun a => [.bound a.value]) ++ .word .closeList ::
        .word .returning :: returning.tokens := by
  rw [tokens, List.isEmpty_eq_false_iff.2 h, List.map_map]
  simp [Function.comp_def]

/-- The parameters of an insertion are the values assigned, in order. -/
theorem Statement.parameters_insert (table : TableName) (assignments : List Assignment)
    (returning : Output) :
    (insert table assignments returning).parameters = assignments.map (·.value.value) := by
  by_cases h : assignments = []
  · simp [parameters, tokens, h]
  · simp [parameters, tokens_insert h, -List.map_map]

/-- An insertion shows each of its assignments. -/
theorem Statement.listsBound_insert {table : TableName} {assignments : List Assignment}
    {returning : Output} {column : String} {b : Bound} (h : ⟨column, b⟩ ∈ assignments) :
    (insert table assignments returning).ListsBound column b := by
  obtain ⟨i, hi⟩ := List.mem_iff_getElem?.1 h
  refine ⟨"INSERT INTO " ++ textFrom 1 table.tokens,
    textFrom (1 + assignments.length) (.word .returning :: returning.tokens),
    (assignments.map (·.column)).map quoteName,
    assignments.mapIdx fun j a => placeholder (1 + j) a.value.castTo, i, ?_, ?_, ?_, ?_⟩
  -- Before the list of columns nothing is bound, and the columns bind nothing either, so the places
  -- are numbered from one.
  · rw [text, tokens_insert (List.ne_nil_of_mem h)]
    simp only [List.cons_append, List.append_assoc, textFrom_word, textFrom_append,
      TableName.boundValues_tokens, boundValues_separated_names, boundValues_separated_places,
      textFrom_separated, textsFrom_names, textsFrom_places, List.length_nil, List.length_map,
      Nat.add_zero, String.append_assoc]
    rfl
  · simp [hi]
  · simp [hi, Nat.add_comm]
  · rw [parameters_insert]
    simp [hi]

/-! ### Conditions

Every other statement has a `WHERE` clause, and asks for the value there. -/

/-- A condition that all of a statement's rows have to meet is one of the parts of its text. -/
theorem Statement.asksBound_of_demands {s : Statement} {f : Filter} {column : String} {b : Bound}
    (hf : s.filter? = some f) (h : f.Demands column b) : s.AsksBound column b := by
  obtain ⟨head, tail, before, after, htext, hparameters⟩ := exists_text_eq hf
  have hpart : Condition.tokens (.compare ⟨none, column⟩ .equal b) ∈ f.parts :=
    List.mem_append_left _ (List.mem_map_of_mem h)
  obtain ⟨front, back, hvalues, hmem⟩ := exists_mem_textsFrom (n := 1 + before.length) hpart
  refine ⟨head, tail, _, before.length + front.length, htext, ?_, ?_⟩
  -- a placeholder has the number of values before it, and one more
  · have hnumber : 1 + before.length + front.length = before.length + front.length + 1 := by omega
    rw [hnumber] at hmem
    simpa [Condition.tokens, ColumnName.tokens, Comparison.word, Word.text,
      String.append_assoc] using hmem
  · rw [hparameters, hvalues]
    simp [Condition.tokens, ColumnName.tokens]

/-- What a statement is bound to, its text shows. -/
theorem Statement.BoundTo.shownBound {s : Statement} {table : TableName} {column : String}
    {b : Bound} (h : s.BoundTo table column b) : s.ShownBound column b := by
  cases s with
  | insert t assignments returning =>
    have hmem : (⟨column, b⟩ : Assignment) ∈ assignments.filter (·.column = column) := by
      rw [h.2]
      exact List.mem_singleton_self _
    exact listsBound_insert (List.mem_filter.1 hmem).1
  | select q => exact asksBound_of_demands rfl h.2.2.2
  | count t f => exact asksBound_of_demands rfl h.2
  | update t assignments f => exact asksBound_of_demands rfl h.2.1
  | delete t f => exact asksBound_of_demands rfl h.2
  | ping => exact h.elim

end TenantGate.Sql
