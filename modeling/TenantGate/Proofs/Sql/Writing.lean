import TenantGate.Proofs.Sql.RowBinding
/-!
# Statements written out

The text of a statement in full, with the number of every placeholder, and the values bound to them.
Conditions are numbered one after another, a condition without a value taking no number
(`numbered`). There is a pair of equations for each kind of statement, such as

    text_count : (count table f).text =
      "SELECT COUNT(*) AS total FROM " ++ table.written ++ " WHERE " ++ f.written 0
    parameters_count : (count table f).parameters = f.values
-/

namespace TenantGate.Sql

/-! ### Conditions

A condition is numbered by how many values the conditions before it bind. As one that asks for a
missing value binds none, the number is not the position of the condition. -/

/-- The values that conditions bind, in order. -/
def valuesOf (cs : List Condition) : List Value := cs.flatMap fun c => c.value?.toList

/-- Conditions, each with how many values are bound before it, `n` of them before the first. -/
def numbered (n : Nat) : List Condition → List (Nat × Condition)
  | [] => []
  | c :: cs => (n, c) :: numbered (n + c.value?.toList.length) cs

/-- The texts of conditions before the first of which `n` values are bound. -/
def writtenAfter (n : Nat) (cs : List Condition) : List String :=
  (numbered n cs).map fun (k, c) => c.written (k + 1)

@[simp] theorem valuesOf_nil : valuesOf [] = [] := rfl

@[simp] theorem valuesOf_cons (c : Condition) (cs : List Condition) :
    valuesOf (c :: cs) = c.value?.toList ++ valuesOf cs := rfl

@[simp] theorem valuesOf_append (cs ds : List Condition) :
    valuesOf (cs ++ ds) = valuesOf cs ++ valuesOf ds := List.flatMap_append

/-- The number of a condition is that of the values before its own. -/
theorem exists_valuesOf_eq {n k : Nat} {cs : List Condition} {c : Condition}
    (h : (k, c) ∈ numbered n cs) :
    ∃ before after, valuesOf cs = before ++ c.value?.toList ++ after ∧ k = n + before.length := by
  induction cs generalizing n with
  | nil => cases h
  | cons d cs ih =>
    rcases List.mem_cons.1 h with heq | h
    · cases heq
      exact ⟨[], valuesOf cs, rfl, rfl⟩
    · obtain ⟨before, after, hvalues, rfl⟩ := ih h
      refine ⟨d.value?.toList ++ before, after, by simp [hvalues], ?_⟩
      rw [List.length_append, Nat.add_assoc]

/-- What a condition binds stands where its number says, whatever is bound after the conditions. -/
theorem getElem?_valuesOf {k : Nat} {cs : List Condition} {c : Condition} {v : Value}
    (h : (k, c) ∈ numbered 0 cs) (hv : c.value? = some v) (rest : List Value) :
    (valuesOf cs ++ rest)[k]? = some v := by
  obtain ⟨before, after, hvalues, rfl⟩ := exists_valuesOf_eq h
  simp [hvalues, hv]

/-- The numbers that the tokens are given are those of `numbered`. -/
theorem textsFrom_conditions_eq (n : Nat) (cs : List Condition) :
    textsFrom (n + 1) (cs.map Condition.tokens) = writtenAfter n cs := by
  induction cs generalizing n with
  | nil => rfl
  | cons c cs ih =>
    have hnext : n + 1 + c.value?.toList.length = n + c.value?.toList.length + 1 := by omega
    rw [List.map_cons, textsFrom_cons, Condition.textFrom_tokens, Condition.boundValues_tokens,
      hnext, ih]
    rfl

/-- The tokens bind the values of the conditions. -/
theorem flatMap_boundValues_conditions (cs : List Condition) :
    (cs.map Condition.tokens).flatMap boundValues = valuesOf cs := by
  rw [List.flatMap_map, valuesOf]
  simp only [Condition.boundValues_tokens]

/-! ### Filters

The conditions that all rows have to meet come first, so the alternatives are numbered after their
values. -/

/-- Conditions with ` AND ` between them, the last part being the alternatives in parentheses. -/
def Filter.written (n : Nat) (f : Filter) : String :=
  " AND ".intercalate (writtenAfter n f.all ++
    if f.any.isEmpty then []
    else ["(" ++ " OR ".intercalate (writtenAfter (n + (valuesOf f.all).length) f.any) ++ ")"])

/-- The values that a filter binds: those of its conditions, and then those of its alternatives. -/
def Filter.values (f : Filter) : List Value := valuesOf (f.all ++ f.any)

/-- The text of a filter before which `n` values are bound. -/
theorem Filter.textFrom_tokens (n : Nat) (f : Filter) :
    textFrom (n + 1) f.tokens = f.written n := by
  have hnext : n + 1 + (valuesOf f.all).length = n + (valuesOf f.all).length + 1 := by omega
  rw [Filter.tokens, textFrom_separated, parts, textsFrom_append, textsFrom_conditions_eq,
    flatMap_boundValues_conditions, hnext, written]
  split
  · rfl
  · -- the alternatives are one part, and numbered after the conditions
    have hgroup := textFrom_separated (n + (valuesOf f.all).length + 1) .or
      (f.any.map Condition.tokens)
    rw [textsFrom_conditions_eq] at hgroup
    simp [textFrom_append, hgroup, Word.text, String.append_assoc]

/-- The tokens of a filter bind its values. -/
theorem Filter.boundValues_tokens (f : Filter) : boundValues f.tokens = f.values := by
  rw [Filter.tokens, boundValues_separated, Filter.parts, List.flatMap_append,
    flatMap_boundValues_conditions, values, valuesOf_append]
  split
  · next hany => simp [List.isEmpty_iff.1 hany]
  · have hgroup := boundValues_separated .or (f.any.map Condition.tokens)
    rw [flatMap_boundValues_conditions] at hgroup
    simp [hgroup]

/-! ### Parts that bind nothing

These parts are written alike wherever they stand. -/

def TableName.written (t : TableName) : String := qualifiedName t.schema t.name

def Output.written (o : Output) : String :=
  o.column.written ++ (if o.asText then "::text" else "") ++
    (match o.label with
      | some l => " AS " ++ quoteName l
      | none => "")

/-- A join as it is written, with the equation of its two columns. -/
def Join.written (j : Join) : String :=
  " JOIN " ++ j.table.written ++ " AS " ++ quoteName j.aliasName ++ " ON " ++ j.left.written ++
    " = " ++ j.right.written

/-- The order of the rows as it is written, or nothing where none is asked for. -/
def orderWritten (order : List (ColumnName × Direction)) : String :=
  if order.isEmpty then ""
  else " ORDER BY " ++ ", ".intercalate (order.map fun (c, d) => c.written ++ d.word.text)

def aliasWritten : Option String → String
  | some a => " AS " ++ quoteName a
  | none => ""

@[simp] theorem TableName.textFrom_tokens (n : Nat) (t : TableName) :
    textFrom n t.tokens = t.written := by
  simp [tokens, written, qualifiedName, Word.text, String.append_assoc]

@[simp] theorem Output.textFrom_tokens (n : Nat) (o : Output) :
    textFrom n o.tokens = o.written := by
  obtain ⟨column, asText, label⟩ := o
  cases asText <;> cases label <;>
    simp [tokens, written, textFrom_append, Word.text, String.append_assoc]

@[simp] theorem Join.textFrom_tokens (n : Nat) (j : Join) : textFrom n j.tokens = j.written := by
  simp [tokens, written, textFrom_append, Word.text, String.append_assoc]

@[simp] theorem textFrom_aliasTokens (n : Nat) (a : Option String) :
    textFrom n (aliasTokens a) = aliasWritten a := by
  cases a <;> simp [aliasTokens, aliasWritten, Word.text]

/-- Where no part binds a value, all are numbered alike. -/
theorem textsFrom_eq_map {α : Type} {tokens : α → List Token} {written : α → String} (n : Nat)
    {l : List α} (h : ∀ a, boundValues (tokens a) = [] ∧ textFrom n (tokens a) = written a) :
    textsFrom n (l.map tokens) = l.map written := by
  induction l with
  | nil => rfl
  | cons a l ih =>
    obtain ⟨hvalues, htext⟩ := h a
    rw [List.map_cons, textsFrom_cons, hvalues, htext]
    exact congrArg _ ih

/-- Joins are written one after another, each with its own leading blank. -/
theorem textFrom_joins (n : Nat) (joins : List Join) :
    textFrom n (joins.flatMap Join.tokens) = String.join (joins.map Join.written) := by
  induction joins with
  | nil => rfl
  | cons j joins ih => simp [textFrom_append, ih, String.join_cons]

/-- The order is written with commas between the columns. -/
theorem textFrom_orderTokens (n : Nat) (order : List (ColumnName × Direction)) :
    textFrom n (orderTokens order) = orderWritten order := by
  have hterms : textsFrom n (order.map fun (c, d) => c.tokens ++ [.word d.word]) =
      order.map fun (c, d) => c.written ++ d.word.text :=
    textsFrom_eq_map n fun (c, d) => ⟨by simp, by simp [textFrom_append]⟩
  unfold orderTokens orderWritten
  split
  · rfl
  · rw [textFrom_word, textFrom_separated, hterms]
    rfl

/-- The order of rows binds nothing. -/
theorem boundValues_orderTokens (order : List (ColumnName × Direction)) :
    boundValues (orderTokens order) = [] := by
  unfold orderTokens
  split
  · rfl
  · refine boundValues_separated_eq_nil fun p hp => ?_
    obtain ⟨⟨c, d⟩, -, rfl⟩ := List.mem_map.1 hp
    simp

/-! ### Queries

A query binds the values of its conditions and then those of its extent, so the extent is numbered
after the filter. -/

/-- How much is wanted, written after `n` values. -/
def Extent.written (n : Nat) : Extent → String
  | everything => ""
  | first => " LIMIT 1"
  | atMost _ => " LIMIT " ++ placeholder (n + 1) none
  | slice _ _ => " LIMIT " ++ placeholder (n + 1) none ++ " OFFSET " ++ placeholder (n + 2) none

/-- The numbers that an extent binds. -/
def Extent.values : Extent → List Value
  | everything | first => []
  | atMost limit => [.int limit]
  | slice limit offset => [.int limit, .int offset]

/-- A query as it is written, its parts in the order of SQL. -/
def Query.written (q : Query) : String :=
  "SELECT " ++ ", ".intercalate (q.outputs.map Output.written) ++ " FROM " ++ q.table.written ++
    aliasWritten q.aliasName ++ String.join (q.joins.map Join.written) ++ " WHERE " ++
    q.filter.written 0 ++ orderWritten q.order ++ q.extent.written q.filter.values.length

/-- The text of an extent before which `n` values are bound. -/
theorem Extent.textFrom_tokens (n : Nat) (e : Extent) :
    textFrom (n + 1) e.tokens = e.written n := by
  cases e with
  | everything => rfl
  | first => rfl
  | atMost limit => simp [tokens, written, Word.text, Bound.ofInt64]
  | slice limit offset => simp [tokens, written, Word.text, Bound.ofInt64, String.append_assoc]

theorem Extent.boundValues_tokens (e : Extent) : boundValues e.tokens = e.values := by
  cases e <;> rfl

/-- The text of a query's tokens is the query as it is written. -/
theorem Query.textFrom_tokens (q : Query) : textFrom 1 q.tokens = q.written := by
  have houtputs : textsFrom 1 (q.outputs.map Output.tokens) = q.outputs.map Output.written :=
    textsFrom_eq_map 1 fun o => ⟨o.boundValues_tokens, o.textFrom_tokens 1⟩
  have hhead : textFrom 1 q.head =
      "SELECT " ++ ", ".intercalate (q.outputs.map Output.written) ++ " FROM " ++ q.table.written ++
        aliasWritten q.aliasName ++ String.join (q.joins.map Join.written) := by
    simp [head, textFrom_append, textFrom_separated, houtputs, textFrom_joins, Word.text,
      String.append_assoc]
  -- Nothing is bound before the clause, so it is numbered from one, and what follows it from the
  -- number of its values.
  rw [q.tokens_eq, textFrom_append, textFrom_append, hhead, q.boundValues_head, textFrom_word,
    List.length_nil, q.filter.textFrom_tokens 0]
  have hnext : 1 + (boundValues (q.head ++ .word .whereClause :: q.filter.tokens)).length =
      q.filter.values.length + 1 := by
    simp [q.filter.boundValues_tokens, Nat.add_comm]
  rw [hnext, textFrom_append, textFrom_orderTokens, boundValues_orderTokens, List.length_nil,
    Nat.add_zero, q.extent.textFrom_tokens]
  simp [written, Word.text, String.append_assoc]

/-- The values that a query binds. -/
def Query.values (q : Query) : List Value := q.filter.values ++ q.extent.values

theorem Query.boundValues_tokens (q : Query) : boundValues q.tokens = q.values := by
  rw [q.tokens_eq]
  simp [values, q.filter.boundValues_tokens, boundValues_orderTokens, q.extent.boundValues_tokens]

/-! ### Statements

One equation for the text and one for the parameters of each kind of statement. -/

/-- An assignment of each value to its column, as an update lays them out. -/
theorem textsFrom_assignments (n : Nat) (as : List Assignment) :
    textsFrom n (as.map fun a => [.name a.column, .word .equal, .bound a.value]) =
      as.mapIdx fun i a => quoteName a.column ++ " = " ++ placeholder (n + i) a.value.castTo := by
  rw [textsFrom_eq_mapIdx (by simp)]
  refine List.ext_getElem? fun i => ?_
  simp [Function.comp_def, Word.text, String.append_assoc]

/-- The assignments of an update bind their values in order. -/
theorem flatMap_boundValues_assignments (as : List Assignment) :
    (as.map fun a => [.name a.column, .word .equal, .bound a.value]).flatMap boundValues =
      as.map (·.value.value) := by
  rw [List.flatMap_map, List.map_eq_flatMap]
  rfl

/-- The columns of a new row and their values, or nothing but defaults. -/
def rowWritten (as : List Assignment) : String :=
  if as.isEmpty then " DEFAULT VALUES"
  else
    " (" ++ ", ".intercalate (as.map fun a => quoteName a.column) ++ ") VALUES (" ++
      ", ".intercalate (as.mapIdx fun i a => placeholder (i + 1) a.value.castTo) ++ ")"

namespace Statement

variable (table : TableName) (as : List Assignment) (f : Filter)

theorem text_insert (returning : Output) :
    (insert table as returning).text =
      "INSERT INTO " ++ table.written ++ rowWritten as ++ " RETURNING " ++ returning.written := by
  rw [text, rowWritten]
  split
  · next hempty =>
    -- a row of defaults has no list of columns to be laid out
    rw [tokens, if_pos hempty]
    simp only [List.cons_append, List.append_assoc, List.nil_append, textFrom_word,
      textFrom_append, TableName.textFrom_tokens, Output.textFrom_tokens, String.append_assoc,
      Word.text]
  · next hassigned =>
    have hnumbers : (fun (i : Nat) (a : Assignment) => placeholder (1 + i) a.value.castTo) =
        fun i a => placeholder (i + 1) a.value.castTo := by
      funext i a
      rw [Nat.add_comm]
    have hcolumns : (as.map (·.column)).map quoteName = as.map fun a => quoteName a.column := by
      rw [List.map_map]
      rfl
    rw [tokens_insert fun heq => hassigned (by rw [heq]; rfl)]
    simp only [List.cons_append, List.append_assoc, textFrom_word, textFrom_append,
      TableName.textFrom_tokens, TableName.boundValues_tokens, boundValues_separated_names,
      boundValues_separated_places, textFrom_separated, textsFrom_names, textsFrom_places,
      Output.textFrom_tokens, List.length_nil, Nat.add_zero, String.append_assoc, hnumbers,
      hcolumns, Word.text]

theorem text_select (q : Query) : (select q).text = q.written := q.textFrom_tokens

theorem parameters_select (q : Query) : (select q).parameters = q.values := q.boundValues_tokens

theorem text_count :
    (count table f).text =
      "SELECT COUNT(*) AS total FROM " ++ table.written ++ " WHERE " ++ f.written 0 := by
  have hfilter := f.textFrom_tokens 0
  have hwords : "SELECT COUNT(*) AS total" ++ " FROM " = "SELECT COUNT(*) AS total FROM " := by
    decide
  rw [← hwords]
  simp only [text, tokens, List.cons_append, textFrom_word, textFrom_append,
    TableName.textFrom_tokens, TableName.boundValues_tokens, List.length_nil, Nat.add_zero,
    hfilter, Word.text, String.append_assoc]

theorem parameters_count : (count table f).parameters = f.values := by
  simp [parameters, tokens, f.boundValues_tokens]

theorem text_update :
    (update table as f).text =
      "UPDATE " ++ table.written ++ " SET " ++
        ", ".intercalate (as.mapIdx fun i a =>
          quoteName a.column ++ " = " ++ placeholder (i + 1) a.value.castTo) ++
        " WHERE " ++ f.written as.length := by
  have hset : textFrom 1 (separated .comma
      (as.map fun a => [.name a.column, .word .equal, .bound a.value])) =
      ", ".intercalate (as.mapIdx fun i a =>
        quoteName a.column ++ " = " ++ placeholder (i + 1) a.value.castTo) := by
    rw [textFrom_separated, textsFrom_assignments]
    simp only [Nat.add_comm 1]
    rfl
  have hvalues := boundValues_separated .comma
    (as.map fun a => [.name a.column, .word .equal, .bound a.value])
  have hfilter := f.textFrom_tokens as.length
  rw [flatMap_boundValues_assignments] at hvalues
  simp [text, tokens, textFrom_append, hset, hvalues, Nat.add_comm 1, hfilter, Word.text,
    String.append_assoc]

/-- The values assigned are bound before those of the conditions. -/
theorem parameters_update :
    (update table as f).parameters = as.map (·.value.value) ++ f.values := by
  have hvalues := boundValues_separated .comma
    (as.map fun a => [.name a.column, .word .equal, .bound a.value])
  rw [flatMap_boundValues_assignments] at hvalues
  simp [parameters, tokens, f.boundValues_tokens, hvalues]

theorem text_delete :
    (delete table f).text = "DELETE FROM " ++ table.written ++ " WHERE " ++ f.written 0 := by
  have hfilter := f.textFrom_tokens 0
  simp [text, tokens, textFrom_append, hfilter, Word.text, String.append_assoc]

theorem parameters_delete : (delete table f).parameters = f.values := by
  simp [parameters, tokens, f.boundValues_tokens]

end Statement
end TenantGate.Sql
