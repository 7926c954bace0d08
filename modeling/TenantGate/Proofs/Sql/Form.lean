import TenantGate.Proofs.Sql.Numbering
/-!
# The form of a statement

The form of a list of tokens is what is left of it without the values that it binds: the words, the
names, and at each place of a value the type that it is cast to. The text depends on the form alone
(`textFrom_form`), because a placeholder shows only where its value stands and how it is cast. So
two statements of one form have one text and bind values at the same places (`Statement.Alike`).
-/

namespace TenantGate.Sql

/-- A bound value without the value. -/
def Bound.form (b : Bound) : Bound := ⟨.text "", b.castTo⟩

/-- A token without the value that it binds. -/
def Token.form : Token → Token
  | .bound b => .bound b.form
  | .word w => .word w
  | .name s => .name s

/-- Tokens without the values that they bind. -/
def form (ts : List Token) : List Token := ts.map Token.form

/-! ### Text and places

What is sent beside the text is all that the values change. -/

/-- The text depends on the form of the tokens alone. -/
theorem textFrom_form (n : Nat) (ts : List Token) : textFrom n (form ts) = textFrom n ts := by
  induction ts generalizing n with
  | nil => rfl
  | cons t ts ih =>
    cases t with
    | word w => exact congrArg (w.text ++ ·) (ih n)
    | name s => exact congrArg (quoteName s ++ ·) (ih n)
    | bound b => exact congrArg (placeholder n b.castTo ++ ·) (ih (n + 1))

/-- Tokens of one form bind as many values. -/
theorem length_boundValues_form (ts : List Token) :
    (boundValues (form ts)).length = (boundValues ts).length := by
  induction ts with
  | nil => rfl
  | cons t ts ih =>
    cases t with
    | word w => exact ih
    | name s => exact ih
    | bound b => exact congrArg (· + 1) ih

/-- Two statements differ in their values alone: they have one text, and bind as many values, at the
same places among the same words, names and types. -/
structure Statement.Alike (s₁ s₂ : Statement) : Prop where
  text : s₁.text = s₂.text
  form : form s₁.tokens = form s₂.tokens
  count : s₁.parameters.length = s₂.parameters.length

/-- Statements of one form differ in their values alone. -/
theorem Statement.alike_of_form {s₁ s₂ : Statement} (h : Sql.form s₁.tokens = Sql.form s₂.tokens) :
    s₁.Alike s₂ where
  text := by
    show textFrom 1 s₁.tokens = textFrom 1 s₂.tokens
    rw [← textFrom_form, h, textFrom_form]
  form := h
  count := by
    show (boundValues s₁.tokens).length = (boundValues s₂.tokens).length
    rw [← length_boundValues_form, h, length_boundValues_form]

/-! ### Forms of parts

The form is taken token by token, so the form of a statement is made of the forms of its parts. -/

@[simp] theorem form_nil : form [] = [] := rfl

@[simp] theorem form_cons (t : Token) (ts : List Token) : form (t :: ts) = t.form :: form ts := rfl

@[simp] theorem form_append (ts us : List Token) : form (ts ++ us) = form ts ++ form us :=
  List.map_append

/-- Parts of one form make a list of one form. -/
theorem form_separated (w : Word) (ps : List (List Token)) :
    form (separated w ps) = separated w (ps.map form) := by
  induction ps with
  | nil => rfl
  | cons p ps ih =>
    cases ps with
    | nil => rfl
    | cons q ps =>
      rw [separated, form_append, form_cons, ih]
      rfl

/-- The form of a condition: its column, its comparison and the type of its value. -/
def Condition.form (c : Condition) : List Token := Sql.form c.tokens

/-- Conditions of one form make a clause of one form. -/
theorem Filter.form_tokens {f₁ f₂ : Filter}
    (hall : f₁.all.map Condition.form = f₂.all.map Condition.form)
    (hany : f₁.any.map Condition.form = f₂.any.map Condition.form) :
    form f₁.tokens = form f₂.tokens := by
  have hparts (f : Filter) : f.parts.map Sql.form = f.all.map Condition.form ++
      (if (f.any.map Condition.form).isEmpty then []
      else [.word .openGroup :: separated .or (f.any.map Condition.form)
        ++ [.word .closeGroup]]) := by
    have hform : Sql.form ∘ Condition.tokens = Condition.form := rfl
    rw [parts, List.map_append, List.map_map, hform, List.isEmpty_map]
    split
    · rfl
    · rw [List.map_singleton, form_append, form_cons, form_separated, List.map_map, hform]
      rfl
  rw [tokens, tokens, form_separated, form_separated, hparts, hparts, hall, hany]

/-- Queries that differ only in their conditions and their extent, and there only in values. -/
theorem Query.form_tokens {q₁ q₂ : Query} (houtputs : q₁.outputs = q₂.outputs)
    (htable : q₁.table = q₂.table) (halias : q₁.aliasName = q₂.aliasName)
    (hjoins : q₁.joins = q₂.joins) (hfilter : form q₁.filter.tokens = form q₂.filter.tokens)
    (horder : q₁.order = q₂.order) (hextent : form q₁.extent.tokens = form q₂.extent.tokens) :
    form q₁.tokens = form q₂.tokens := by
  rw [tokens, tokens, houtputs, htable, halias, hjoins, horder]
  simp only [form_append, form_cons, hfilter, hextent]

end TenantGate.Sql
