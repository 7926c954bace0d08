import TenantGate.Sql.Text
/-!
# Numbered text

The placeholders of a statement count its bound values from the left. So the text of a list of
tokens depends on how many values stand before it, and `textFrom_append` says how:

    textFrom n (xs ++ ys) = textFrom n xs ++ textFrom (n + (boundValues xs).length) ys

From it follows what the `WHERE` clause of a statement looks like (`exists_text_eq`): its parts,
each numbered from where the one before it stopped, with ` AND ` between them.
-/

namespace TenantGate.Sql

/-! ### Lists of tokens

The text and the bound values of a list, token by token. A bound value is the one token that moves
the count on. -/

@[simp] theorem boundValues_nil : boundValues [] = [] := rfl

@[simp] theorem boundValues_word (w : Word) (ts : List Token) :
    boundValues (.word w :: ts) = boundValues ts := rfl

@[simp] theorem boundValues_name (s : String) (ts : List Token) :
    boundValues (.name s :: ts) = boundValues ts := rfl

@[simp] theorem boundValues_bound (b : Bound) (ts : List Token) :
    boundValues (.bound b :: ts) = b.value :: boundValues ts := rfl

/-- The values of a text are bound from left to right. -/
@[simp] theorem boundValues_append (ts us : List Token) :
    boundValues (ts ++ us) = boundValues ts ++ boundValues us := by
  induction ts with
  | nil => rfl
  | cons t ts ih => cases t <;> simp [ih]

@[simp] theorem textFrom_nil (n : Nat) : textFrom n [] = "" := rfl

@[simp] theorem textFrom_word (n : Nat) (w : Word) (ts : List Token) :
    textFrom n (.word w :: ts) = w.text ++ textFrom n ts := rfl

@[simp] theorem textFrom_name (n : Nat) (s : String) (ts : List Token) :
    textFrom n (.name s :: ts) = quoteName s ++ textFrom n ts := rfl

@[simp] theorem textFrom_bound (n : Nat) (b : Bound) (ts : List Token) :
    textFrom n (.bound b :: ts) = placeholder n b.castTo ++ textFrom (n + 1) ts := rfl

/-- Text is numbered from where the text before it stopped. -/
theorem textFrom_append (n : Nat) (ts us : List Token) :
    textFrom n (ts ++ us) = textFrom n ts ++ textFrom (n + (boundValues ts).length) us := by
  induction ts generalizing n with
  | nil => simp
  | cons t ts ih =>
    cases t with
    | word w => simp [ih, String.append_assoc]
    | name s => simp [ih, String.append_assoc]
    | bound b => simp [ih, String.append_assoc, Nat.add_assoc, Nat.add_comm 1]

/-! ### Parts with a word between them

A clause is a list of parts with one word between them. The word binds nothing, so that only the
parts before it decide where a part is numbered from. -/

/-- The texts of parts, each numbered from where the one before it stopped. -/
def textsFrom (n : Nat) : List (List Token) → List String
  | [] => []
  | p :: ps => textFrom n p :: textsFrom (n + (boundValues p).length) ps

@[simp] theorem textsFrom_nil (n : Nat) : textsFrom n [] = [] := rfl

@[simp] theorem textsFrom_cons (n : Nat) (p : List Token) (ps : List (List Token)) :
    textsFrom n (p :: ps) = textFrom n p :: textsFrom (n + (boundValues p).length) ps := rfl

/-- The parts after some others are numbered from where those stopped. -/
theorem textsFrom_append (n : Nat) (ps qs : List (List Token)) :
    textsFrom n (ps ++ qs) =
      textsFrom n ps ++ textsFrom (n + (ps.flatMap boundValues).length) qs := by
  induction ps generalizing n with
  | nil => rfl
  | cons p ps ih =>
    rw [List.cons_append, textsFrom_cons, ih, List.flatMap_cons, List.length_append, Nat.add_assoc]
    rfl

/-- What is kept by one more part in front, with the word after it, is so of parts with the word
between them. -/
theorem separated_induction {P : List Token → Prop} {w : Word} (hnil : P [])
    (happend : ∀ p ts, P p → P ts → P (p ++ .word w :: ts)) {ps : List (List Token)}
    (h : ∀ p ∈ ps, P p) : P (separated w ps) := by
  induction ps with
  | nil => exact hnil
  | cons p ps ih =>
    obtain ⟨hp, hps⟩ := List.forall_mem_cons.1 h
    cases ps with
    | nil => exact hp
    | cons q ps => exact happend p _ hp (ih hps)

/-- The text of a clause is that of its parts with the word's text between them. -/
theorem textFrom_separated (n : Nat) (w : Word) (ps : List (List Token)) :
    textFrom n (separated w ps) = w.text.intercalate (textsFrom n ps) := by
  induction ps generalizing n with
  | nil => simp [separated]
  | cons p ps ih =>
    cases ps with
    | nil => simp [separated]
    | cons q ps =>
      rw [separated, textFrom_append, textFrom_word, ih, textsFrom_cons n, textsFrom_cons,
        String.intercalate_cons_cons, String.append_assoc]

/-- A clause binds what its parts bind. -/
theorem boundValues_separated (w : Word) (ps : List (List Token)) :
    boundValues (separated w ps) = ps.flatMap boundValues := by
  induction ps with
  | nil => rfl
  | cons p ps ih =>
    cases ps with
    | nil => simp [separated]
    | cons q ps => simp [separated, ih]

/-- The text of a part, and where its first placeholder stands among the values of all parts. -/
theorem exists_mem_textsFrom {n : Nat} {p : List Token} {ps : List (List Token)} (h : p ∈ ps) :
    ∃ before after, ps.flatMap boundValues = before ++ boundValues p ++ after ∧
      textFrom (n + before.length) p ∈ textsFrom n ps := by
  -- The induction is on the parts; those before `p` grow by one at each step.
  induction ps generalizing n with
  | nil => cases h
  | cons q ps ih =>
    rcases List.mem_cons.1 h with rfl | h
    · exact ⟨[], ps.flatMap boundValues, by simp, by simp⟩
    · obtain ⟨before, after, hvalues, hmem⟩ := ih (n := n + (boundValues q).length) h
      refine ⟨boundValues q ++ before, after, by simp [hvalues], ?_⟩
      -- the values of the parts before are those of `q` and those found
      rw [textsFrom_cons, List.length_append, ← Nat.add_assoc]
      exact List.mem_cons_of_mem _ hmem

/-- Where every part binds one value, the parts are numbered one by one. -/
theorem textsFrom_eq_mapIdx {n : Nat} {ps : List (List Token)}
    (h : ∀ p ∈ ps, (boundValues p).length = 1) :
    textsFrom n ps = ps.mapIdx fun i p => textFrom (n + i) p := by
  induction ps generalizing n with
  | nil => rfl
  | cons p ps ih =>
    have hp : (boundValues p).length = 1 := h p List.mem_cons_self
    have hps : ∀ q ∈ ps, (boundValues q).length = 1 := fun q hq => h q (List.mem_cons_of_mem _ hq)
    rw [textsFrom_cons, hp, ih hps, List.mapIdx_cons]
    simp only [Nat.add_zero, Nat.add_assoc, Nat.add_comm 1]

/-! ### Parts that bind nothing

Names, outputs, joins and aliases are made of words and names alone, and so leave the count as it
is. -/

@[simp] theorem TableName.boundValues_tokens (t : TableName) : boundValues t.tokens = [] := rfl

@[simp] theorem ColumnName.boundValues_tokens (c : ColumnName) : boundValues c.tokens = [] := by
  rcases c with ⟨_ | q, name⟩ <;> rfl

@[simp] theorem Output.boundValues_tokens (o : Output) : boundValues o.tokens = [] := by
  rw [Output.tokens]
  cases o.asText <;> cases o.label <;> simp

@[simp] theorem Join.boundValues_tokens (j : Join) : boundValues j.tokens = [] := by
  simp [Join.tokens]

@[simp] theorem boundValues_aliasTokens (a : Option String) : boundValues (aliasTokens a) = [] := by
  cases a <;> rfl

/-- A list of such parts leaves the count as well. -/
theorem boundValues_separated_eq_nil {w : Word} {ps : List (List Token)}
    (h : ∀ p ∈ ps, boundValues p = []) : boundValues (separated w ps) = [] := by
  rw [boundValues_separated]
  exact List.flatMap_eq_nil_iff.2 h

/-! ### Conditions

A condition binds one value at most, and what is written of it depends on the number of that value
only. -/

/-- The value that a condition binds, if it binds one. -/
def Condition.value? : Condition → Option Value
  | compare _ _ b => some b.value
  | isNull _ => none
  | resembles _ pattern => some (.text pattern)

@[simp] theorem Condition.boundValues_tokens (c : Condition) :
    boundValues c.tokens = c.value?.toList := by
  cases c <;> simp [tokens, value?]

/-- A column as it is written: quoted, after the quoted alias of its table if it has one. -/
def ColumnName.written (c : ColumnName) : String :=
  match c.qualifier with
  | none => quoteName c.name
  | some q => quoteName q ++ "." ++ quoteName c.name

/-- A condition as it is written when its value has number `n`. -/
def Condition.written (n : Nat) : Condition → String
  | compare c op b => c.written ++ op.word.text ++ placeholder n b.castTo
  | isNull c => c.written ++ " IS NULL"
  | resembles c _ => "CAST(" ++ c.written ++ " AS TEXT) ILIKE " ++ placeholder n none

@[simp] theorem ColumnName.textFrom_tokens (n : Nat) (c : ColumnName) :
    textFrom n c.tokens = c.written := by
  obtain ⟨_ | q, name⟩ := c
  · exact String.append_empty
  · show quoteName q ++ ("." ++ (quoteName name ++ "")) = quoteName q ++ "." ++ quoteName name
    rw [String.append_empty, String.append_assoc]

/-- The text of a condition's tokens is the condition as it is written. -/
theorem Condition.textFrom_tokens (n : Nat) (c : Condition) :
    textFrom n c.tokens = c.written n := by
  cases c with
  | compare c op b => simp [tokens, written, textFrom_append, String.append_assoc]
  | isNull c => simp [tokens, written, textFrom_append, Word.text]
  | resembles c pattern =>
    simp [tokens, written, textFrom_append, Word.text, String.append_assoc]

/-! ### Clauses of statements

The `WHERE` clause of a statement is found among its tokens, with what stands before it and after
it. Before the clause of a query nothing is bound; before that of an update are the values assigned.
-/

/-- The conditions of a statement, if it has a `WHERE` clause. -/
def Statement.filter? : Statement → Option Filter
  | insert .. | ping => none
  | select q => some q.filter
  | count _ f | update _ _ f | delete _ f => some f

/-- What stands before the `WHERE` clause of a query. -/
def Query.head (q : Query) : List Token :=
  .word .select :: separated .comma (q.outputs.map Output.tokens) ++ .word .fromTable ::
    q.table.tokens ++ aliasTokens q.aliasName ++ q.joins.flatMap Join.tokens

/-- The tokens of a query around its `WHERE` clause. -/
theorem Query.tokens_eq (q : Query) :
    q.tokens = q.head ++ .word .whereClause :: q.filter.tokens
      ++ (orderTokens q.order ++ q.extent.tokens) := by
  simp [tokens, head]

/-- Nothing is bound before the `WHERE` clause of a query. -/
@[simp] theorem Query.boundValues_head (q : Query) : boundValues q.head = [] := by
  have houtputs : boundValues (separated .comma (q.outputs.map Output.tokens)) = [] :=
    boundValues_separated_eq_nil (by simp)
  have hjoins : boundValues (q.joins.flatMap Join.tokens) = [] := by
    induction q.joins with
    | nil => rfl
    | cons j joins ih => simp [ih]
  simp [head, houtputs, hjoins]

/-- The `WHERE` clause stands as it is among the tokens of a statement. -/
theorem Statement.exists_tokens_eq {s : Statement} {f : Filter} (h : s.filter? = some f) :
    ∃ before after, s.tokens = before ++ .word .whereClause :: f.tokens ++ after := by
  cases s with
  | insert table assignments returning => cases h
  | ping => cases h
  | select q =>
    cases h
    exact ⟨q.head, orderTokens q.order ++ q.extent.tokens, q.tokens_eq⟩
  | count table f =>
    cases h
    exact ⟨.word .selectCount :: .word .fromTable :: table.tokens, [], by simp [tokens]⟩
  | update table assignments f =>
    cases h
    exact ⟨.word .update :: table.tokens ++ .word .set :: separated .comma
      (assignments.map fun a => [.name a.column, .word .equal, .bound a.value]), [],
      by simp [tokens]⟩
  | delete table f =>
    cases h
    exact ⟨.word .deleteFrom :: table.tokens, [], by simp [tokens]⟩

/-- The text of a statement with a `WHERE` clause, and the values that are bound in the clause:
those before it make up the number with which it begins. -/
theorem Statement.exists_text_eq {s : Statement} {f : Filter} (h : s.filter? = some f) :
    ∃ head tail before after,
      s.text = head ++ " WHERE " ++
        " AND ".intercalate (textsFrom (1 + before.length) f.parts) ++ tail ∧
      s.parameters = before ++ f.parts.flatMap boundValues ++ after := by
  -- The clause is cut out of the tokens, and its parts out of the clause.
  obtain ⟨pre, post, htokens⟩ := exists_tokens_eq h
  refine ⟨textFrom 1 pre, textFrom (1 + (boundValues pre).length + (boundValues f.tokens).length)
    post, boundValues pre, boundValues post, ?_, ?_⟩
  · rw [text, htokens, textFrom_append, textFrom_append, textFrom_word, Filter.tokens,
      textFrom_separated]
    simp [Word.text, String.append_assoc, Nat.add_assoc]
  · rw [parameters, htokens, ← boundValues_separated .and]
    simp [Filter.tokens]

end TenantGate.Sql
