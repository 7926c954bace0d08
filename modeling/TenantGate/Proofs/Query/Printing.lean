import TenantGate.Proofs.Number
import TenantGate.Proofs.Query.Arrows
/-!
# Writing expressions

`Expression.text` writes an expression as a chain of calls: the table, the joins, the columns to
select if there are any, the conditions, the order and the limit. Texts are quoted and integers
bare. What is written is read back (`Expression.read_text`): the text of a step is the text of a
call (`CallText.ofCall`) that is neither cut within nor merged with the next one, its arguments are
read back one by one, and the steps build the expression from the empty one (`foldl_steps`).
-/

namespace TenantGate.Query

open Text

/-! ### The text of an expression

There are many texts of one expression. This one has no blanks outside of quotes, quotes all texts,
and puts the calls in a fixed order. -/

/-- A text in single quotes, or an integer. -/
def Literal.argument : Literal → Argument
  | .text s => .quoted s.toList
  | .int i => .bare (Number.intText i.toInt).toList

/-- `method(argument,…)` -/
def Call.chars (call : Call) : List Char :=
  call.method.toList ++ '(' ::
    ([','].intercalate (call.args.map fun arg => arg.argument.written) ++ [')'])

/-- `table as alias` -/
def NamedTable.written (t : NamedTable) : String := t.table ++ " as " ++ t.aliasName

def Operator.written : Operator → String
  | .compare .equal => "="
  | .compare .atMost => "<="
  | .compare .atLeast => ">="
  | .compare .less => "<"
  | .compare .greater => ">"
  | .like => "like"

def orderText : Sql.Direction → String
  | .ascending => "asc"
  | .descending => "desc"

def Step.args : Step → List Literal
  | .table base => [.text base.written]
  | .select columns => columns.map (.text ·.written)
  | .join j => [.text j.target.written, .text j.left.written, .text "=", .text j.right.written]
  | .where w => [.text w.column.written, .text w.op.written, w.value]
  | .orderBy o => [.text o.column.written, .text (orderText o.direction)]
  | .take n => [.int n]

/-- The call that makes a step. -/
def Step.call (step : Step) : Call := ⟨step.method, step.args⟩

/-- The steps that make an expression. -/
def Expression.steps (e : Expression) : List Step :=
  .table e.base :: (e.joins.map .join ++ (if e.select.isEmpty then [] else [.select e.select]) ++
    e.wheres.map .where ++ e.orderBy.map .orderBy ++ (e.limit.map .take).toList)

/-- The calls of an expression with arrows between them. -/
def Expression.text (e : Expression) : String :=
  String.ofList (arrow.intercalate (e.steps.map fun step => step.call.chars))

/-! ### Expressions that can be written

A text in single quotes cannot hold one, as there is no way to escape it. Names of tables are read
word by word, so they need to be words. -/

/-- A text without quotes. -/
def IsUnquoted (s : String) : Prop := '\'' ∉ s.toList

instance : DecidablePred IsUnquoted := fun s => inferInstanceAs (Decidable ('\'' ∉ s.toList))

/-- A name that is one word. -/
def IsName (s : String) : Prop := s ≠ "" ∧ (∀ c ∈ s.toList, isBlank c = false) ∧ IsUnquoted s

instance : DecidablePred IsName := fun s =>
  decidable_of_iff (s ≠ "" ∧ s.toList.all (!isBlank ·) = true ∧ IsUnquoted s) (by simp [IsName])

def NamedTable.IsPlain (t : NamedTable) : Prop := IsName t.table ∧ IsName t.aliasName

instance : DecidablePred NamedTable.IsPlain := fun t =>
  inferInstanceAs (Decidable (IsName t.table ∧ IsName t.aliasName))

/-- A column that is what is read of the text it keeps. -/
def NamedColumn.IsPlain (r : NamedColumn) : Prop :=
  NamedColumn.read? r.written = some r ∧ IsUnquoted r.written

instance : DecidablePred NamedColumn.IsPlain := fun r =>
  inferInstanceAs (Decidable (NamedColumn.read? r.written = some r ∧ IsUnquoted r.written))

def Literal.IsPlain : Literal → Prop
  | .text s => IsUnquoted s
  | .int _ => True

instance : DecidablePred Literal.IsPlain
  | .text s => inferInstanceAs (Decidable (IsUnquoted s))
  | .int _ => inferInstanceAs (Decidable True)

/-- An expression that can be written: no text of it holds a quote. -/
structure Expression.IsPlain (e : Expression) : Prop where
  base : e.base.IsPlain
  joins : ∀ j ∈ e.joins, j.target.IsPlain ∧ j.left.IsPlain ∧ j.right.IsPlain
  select : ∀ r ∈ e.select, r.IsPlain
  wheres : ∀ w ∈ e.wheres, w.column.IsPlain ∧ w.value.IsPlain
  orderBy : ∀ o ∈ e.orderBy, o.column.IsPlain
  limit : ∀ n ∈ e.limit, 0 < n

/-! ### Arguments

A quoted argument is safe for every reader. A bare one is an integer, whose characters mean nothing
to any of them. -/

/-- What stands outside of quotes are digits and minus signs. -/
theorem Literal.of_mem_outside {a : Literal} {c : Char} (h : c ∈ a.argument.outside) :
    isBlank c = false ∧ c ≠ ',' ∧ c ≠ '\'' ∧ c ≠ '>' := by
  cases a with
  | text s => cases h
  | int i =>
    rw [Literal.argument, Argument.outside, Number.intText, String.toList_ofList] at h
    obtain hdigit | rfl := Number.of_mem_intChars h
    · refine ⟨not_blank_of_isDigit hdigit, ?_, ?_, ?_⟩ <;> rintro rfl <;> revert hdigit <;> decide
    · decide

theorem Literal.written_ne_nil (a : Literal) : a.argument.written ≠ [] := by
  cases a with
  | text s => exact List.cons_ne_nil _ _
  | int i =>
    rw [Literal.argument, Argument.written, Number.intText, String.toList_ofList]
    exact Number.intChars_ne_nil

theorem Literal.not_blank_last (a : Literal) :
    ∀ c ∈ a.argument.written.getLast?, isBlank c = false := by
  intro c hc
  cases a with
  | text s =>
    rw [Literal.argument, Argument.written, ← List.cons_append, List.getLast?_concat] at hc
    obtain rfl := Option.some.inj hc
    decide
  | int i =>
    exact (of_mem_outside (a := .int i) (List.mem_of_mem_getLast? hc)).1

/-- What is written of a literal is an argument for the reader. -/
theorem Literal.IsPlain.isProper {a : Literal} (h : a.IsPlain) : a.argument.IsProper := by
  cases a with
  | text s => exact h
  | int i =>
    have hchars {c : Char} (hc : c ∈ (Number.intText i.toInt).toList) :=
      of_mem_outside (a := .int i) hc
    refine ⟨fun hhead => ?_, fun hmem => (hchars hmem).2.1 rfl, trimChars_eq_self_of_ends ?_ ?_⟩
    · exact (hchars (List.mem_of_mem_head? hhead)).2.2.1 rfl
    · exact fun c hc => (hchars (List.mem_of_mem_head? hc)).1
    · exact fun c hc => (hchars (List.mem_of_mem_getLast? hc)).1

/-- An argument that is written is read back. -/
theorem Literal.value?_argument (a : Literal) : a.argument.value? = some a := by
  cases a with
  | text s => rw [Literal.argument, Argument.value?, String.ofList_toList]
  | int i =>
    have hne : ¬ (Number.intText i.toInt).toList.isEmpty = true := by
      rw [List.isEmpty_iff]
      exact written_ne_nil (.int i)
    rw [Literal.argument, Argument.value?, if_neg hne, bareLiteral, String.ofList_toList,
      Number.readInt64?_intText]

/-! ### Calls

A call is written as the text of a call without any blanks, so what is known of such texts applies.
-/

/-- Arguments with a comma between them. -/
def piecesOf : List Literal → List Piece
  | [] => []
  | [a] => [⟨a.argument, []⟩]
  | a :: b :: args => ⟨a.argument, [',']⟩ :: piecesOf (b :: args)

/-- Arguments are written with commas between them. -/
theorem argText_piecesOf (args : List Literal) :
    argText (piecesOf args) = [','].intercalate (args.map fun arg => arg.argument.written) := by
  fun_induction piecesOf args with
  | case1 => rfl
  | case2 a => rw [argText_cons, argText_nil]; simp
  | case3 a b args ih =>
    rw [argText_cons, ih]
    simp [List.intercalate_cons_cons]

/-- All of the arguments are read back. -/
theorem argValues_piecesOf (args : List Literal) : argValues (piecesOf args) = args := by
  fun_induction piecesOf args with
  | case1 => rfl
  | case2 a => rw [argValues_cons, a.value?_argument]; rfl
  | case3 a b args ih => rw [argValues_cons, a.value?_argument, ih]; rfl

theorem isArgumentList_piecesOf {args : List Literal} (h : ∀ a ∈ args, a.IsPlain) :
    IsArgumentList (piecesOf args) := by
  fun_induction piecesOf args with
  | case1 => exact .nil
  | case2 a => exact .last (h a (by simp)).isProper a.written_ne_nil .nil
  | case3 a b args ih =>
    rw [List.forall_mem_cons] at h
    exact .comma h.1.isProper (ih h.2)

theorem argText_piecesOf_ne_nil {args : List Literal} (h : args ≠ []) :
    argText (piecesOf args) ≠ [] := by
  fun_induction piecesOf args with
  | case1 => exact absurd rfl h
  | case2 a => simpa using a.written_ne_nil
  | case3 a b args => simp

theorem trimChars_piecesOf {args : List Literal} (h : ∀ a ∈ args, a.IsPlain) :
    trimChars (argText (piecesOf args)) = argText (piecesOf args) := by
  refine trimChars_eq_self (isArgumentList_piecesOf h).trimStart_argText
    (trimEnd_eq_self_of_getLast? ?_)
  -- nothing ends in a blank: the last character is that of the last argument
  fun_induction piecesOf args with
  | case1 => intro c hc; cases hc
  | case2 a => simpa using a.not_blank_last
  | case3 a b args ih =>
    intro c hc
    rw [List.forall_mem_cons] at h
    rw [argText_cons, ← List.append_assoc, List.getLast?_append_of_ne_nil] at hc
    · exact ih h.2 c hc
    · exact argText_piecesOf_ne_nil (List.cons_ne_nil b args)

/-- Outside of its quotes a call has neither quotes nor arrowheads. -/
theorem of_mem_bareText_piecesOf {args : List Literal} {c : Char}
    (h : c ∈ bareText (piecesOf args)) : c ≠ '\'' ∧ c ≠ '>' := by
  fun_induction piecesOf args with
  | case1 => cases h
  | case2 a =>
    rw [bareText_cons] at h
    exact (Literal.of_mem_outside ((List.mem_append.1 h).resolve_right List.not_mem_nil)).2.2
  | case3 a b args ih =>
    rw [bareText_cons] at h
    obtain h | h := List.mem_append.1 h
    · exact (Literal.of_mem_outside h).2.2
    · exact ih h

/-- The text of a call, without blanks. -/
def CallText.ofCall (call : Call) : CallText where
  name := call.method.toList
  pieces := piecesOf call.args

theorem CallText.chars_ofCall (call : Call) : (CallText.ofCall call).chars = call.chars := by
  simp [CallText.chars, CallText.front, CallText.back, CallText.ofCall, argText_piecesOf,
    Call.chars]

theorem CallText.call_ofCall (call : Call) : (CallText.ofCall call).call = call := by
  rw [CallText.call, CallText.ofCall, argValues_piecesOf, String.ofList_toList]

/-- A call whose method is a word of letters, and whose arguments can be written. -/
structure Call.IsPlain (call : Call) : Prop where
  method_ne : call.method ≠ ""
  method : ∀ c ∈ call.method.toList, c.isAlpha = true
  args : ∀ a ∈ call.args, a.IsPlain

theorem CallText.isProper_ofCall {call : Call} (h : call.IsPlain) :
    (CallText.ofCall call).IsProper where
  lead := .nil
  name_ne := fun hnil => h.method_ne (String.toList_eq_nil_iff.1 hnil)
  name := h.method
  gap := .nil
  opening := .nil
  pieces := isArgumentList_piecesOf h.args
  trimmed := trimChars_piecesOf h.args
  closing := .nil
  tail := .nil

/-- A call that is written is read back. -/
theorem readCall_chars {call : Call} (h : call.IsPlain) :
    readCall (trimChars call.chars) = some call :=
  readCall_eq_some_iff.2 ⟨_, CallText.isProper_ofCall h, CallText.chars_ofCall call,
    CallText.call_ofCall call⟩

/-- A call that is written is a segment, and closes the quotes that it opens. -/
theorem Call.IsPlain.isSegment {call : Call} (h : call.IsPlain) :
    IsSegment false call.chars ∧ isQuotedAfter false call.chars = false := by
  rw [← CallText.chars_ofCall]
  exact (CallText.isProper_ofCall h).isSegment fun _ hc => of_mem_bareText_piecesOf hc

/-! ### Steps

Each method has its own reader, and the arguments of a step are those that the reader of its method
expects. -/

/-- A table is read back with its alias. -/
theorem NamedTable.read?_written {t : NamedTable} (h : t.IsPlain) :
    NamedTable.read? t.written = some t := by
  obtain ⟨⟨htable, htable', -⟩, hname, hname', -⟩ := h
  have hlist : t.written.toList =
      t.table.toList ++ ' ' :: (['a', 's'] ++ ' ' :: t.aliasName.toList) := by
    rw [written, String.toList_append, String.toList_append, List.append_assoc]
    rfl
  have has : ∀ c ∈ ['a', 's'], isBlank c = false :=
    List.forall_mem_cons.2 ⟨by decide, List.forall_mem_singleton.2 (by decide)⟩
  have hwords : Text.words t.written = [t.table, "as", t.aliasName] := by
    rw [Text.words, hlist, wordsFrom_word_blank htable' (by simpa using htable) (by decide),
      wordsFrom_word_blank has (List.cons_ne_nil _ _) (by decide),
      wordsFrom_word hname' (by simpa using hname)]
    simp
  rw [NamedTable.read?, hwords]
  rfl

theorem NamedTable.IsPlain.isUnquoted {t : NamedTable} (h : t.IsPlain) : IsUnquoted t.written := by
  obtain ⟨⟨-, -, htable⟩, -, -, hname⟩ := h
  rw [IsUnquoted] at htable hname
  simp [IsUnquoted, written, htable, hname]

/-- Every operator is read back. -/
theorem Operator.read?_written (op : Operator) : Operator.read? op.written = some op := by
  cases op with
  | compare c => cases c <;> decide +kernel
  | like => decide +kernel

theorem readDirection?_orderText (d : Sql.Direction) :
    Page.readDirection? (orderText d) = some d := by
  cases d <;> decide +kernel

/-- A step that can be written. -/
def Step.IsPlain : Step → Prop
  | .table base => base.IsPlain
  | .select columns => columns ≠ [] ∧ ∀ r ∈ columns, r.IsPlain
  | .join j => j.target.IsPlain ∧ j.left.IsPlain ∧ j.right.IsPlain
  | .where w => w.column.IsPlain ∧ w.value.IsPlain
  | .orderBy o => o.column.IsPlain
  | .take n => 0 < n

theorem Operator.isUnquoted_written (op : Operator) : IsUnquoted op.written := by
  cases op with
  | compare c => cases c <;> decide
  | like => decide

theorem isUnquoted_orderText (d : Sql.Direction) : IsUnquoted (orderText d) := by
  cases d <;> decide

def methods : List String := ["table", "select", "join", "where", "orderby", "take"]

theorem Step.method_mem (step : Step) : step.method ∈ methods := by
  cases step <;> simp [Step.method, methods]

theorem lower_of_mem_methods : ∀ m ∈ methods, Text.lower m = m := by decide +kernel

theorem letters_of_mem_methods : ∀ m ∈ methods, m ≠ "" ∧ m.toList.all Char.isAlpha = true := by
  decide +kernel

/-- All arguments of a step can be written. -/
theorem Step.IsPlain.args {step : Step} (h : step.IsPlain) : ∀ a ∈ step.args, a.IsPlain := by
  cases step with
  | table base => exact List.forall_mem_singleton.2 h.isUnquoted
  | select columns =>
    rintro _ ha
    obtain ⟨r, hr, rfl⟩ := List.mem_map.1 ha
    exact (h.2 r hr).2
  | join j =>
    obtain ⟨htarget, hleft, hright⟩ := h
    simp only [Step.args, List.forall_mem_cons]
    exact ⟨htarget.isUnquoted, hleft.2, (by decide : IsUnquoted "="), hright.2, by simp⟩
  | «where» w =>
    simp only [Step.args, List.forall_mem_cons]
    exact ⟨h.1.2, w.op.isUnquoted_written, h.2, by simp⟩
  | orderBy o =>
    simp only [Step.args, List.forall_mem_cons]
    exact ⟨h.2, isUnquoted_orderText o.direction, by simp⟩
  | take n => exact List.forall_mem_singleton.2 trivial

theorem Step.IsPlain.call {step : Step} (h : step.IsPlain) : step.call.IsPlain :=
  have hletters := letters_of_mem_methods _ step.method_mem
  ⟨hletters.1, List.all_eq_true.1 hletters.2, h.args⟩

theorem readColumn_written {r : NamedColumn} (h : r.IsPlain) (method : String) (part : QueryPart) :
    readColumn method part (.text r.written) = .ok r := by
  rw [readColumn, Literal.toText, h.1]
  rfl

theorem readSelect_written {columns : List NamedColumn} (hne : columns ≠ [])
    (h : ∀ r ∈ columns, r.IsPlain) :
    readSelect (columns.map (.text ·.written)) = .ok (.select columns) := by
  have hcolumns : (columns.map (Literal.text ·.written)).mapM (readColumn "select" .column) =
      .ok columns := by
    rw [mapM_eq_ok_iff, List.forall₂_map_left_iff, List.forall₂_same]
    exact fun r hr => readColumn_written (h r hr) _ _
  rw [readSelect, if_neg (by simpa using hne), hcolumns]
  rfl

/-- A step that is written is read back. -/
theorem readStep_call {step : Step} (h : step.IsPlain) (i : Nat) :
    readStep i step.call.chars = .ok (some step) := by
  have hcall : readCall (trimChars step.call.chars) = some step.call := readCall_chars h.call
  have hne : ¬ (trimChars step.call.chars).isEmpty = true := by
    intro hempty
    rw [List.isEmpty_iff.1 hempty] at hcall
    cases hcall
  simp only [readStep, if_neg hne, hcall]
  rw [show Text.lower step.call.method = step.method from
    lower_of_mem_methods _ step.method_mem]
  -- the method is now a literal, which says how the arguments are read
  cases step with
  | table base =>
    show some <$> readTable [.text base.written] = _
    simp only [readTable, Literal.toText, NamedTable.read?_written h]
    rfl
  | select columns =>
    show some <$> readSelect (columns.map (.text ·.written)) = _
    rw [readSelect_written h.1 h.2]
    rfl
  | join j =>
    show some <$> readJoin [_, .text j.left.written, .text "=", .text j.right.written] = _
    simp only [readJoin, Literal.toText, NamedTable.read?_written h.1, readColumn_written h.2.1,
      readColumn_written h.2.2]
    rfl
  | «where» w =>
    show some <$> readWhere [.text w.column.written, .text w.op.written, w.value] = _
    simp only [readWhere, Literal.toText, w.op.read?_written, readColumn_written h.1]
    rfl
  | orderBy o =>
    show some <$> readOrder [.text o.column.written, .text (orderText o.direction)] = _
    simp only [readOrder, Literal.toText, readDirection?_orderText, readColumn_written h]
    rfl
  | take n =>
    show some <$> readTake [.int n] = _
    have hpos : 0 < n := h
    simp only [readTake, Literal.toInt?, if_pos hpos]
    rfl

/-- Steps that are written are read back in their order. -/
theorem readSteps_calls {steps : List Step} (h : ∀ step ∈ steps, step.IsPlain) (i : Nat) :
    readSteps i (steps.map fun step => step.call.chars) = .ok steps := by
  induction steps generalizing i with
  | nil => rfl
  | cons step steps ih =>
    rw [List.forall_mem_cons] at h
    rw [List.map_cons, readSteps, readStep_call h.1, ih h.2]
    rfl

/-! ### Expressions

The steps build the expression part by part. Since its text begins and ends as a call does, trimming
leaves it as it is. -/

/-- Steps of one kind, each of which adds to what the ones before it made. -/
theorem foldl_map_step {α : Type} {f : α → Step} {g : Expression → List α → Expression}
    (hnil : ∀ e, g e [] = e) (hcons : ∀ e a as, g (e.apply (f a)) as = g e (a :: as))
    (as : List α) (e : Expression) : (as.map f).foldl Expression.apply e = g e as := by
  induction as generalizing e with
  | nil => exact (hnil e).symm
  | cons a as ih => rw [List.map_cons, List.foldl_cons, ih, hcons]

/-- The steps of an expression build it. -/
theorem foldl_steps (e : Expression) : e.steps.foldl Expression.apply {} = e := by
  -- joins, conditions and orders are added to the end of what is there; the other steps set their
  -- part
  have hjoins := foldl_map_step (f := Step.join)
    (g := fun e js => { e with joins := e.joins ++ js }) (by simp) (by simp [Expression.apply])
  have hwheres := foldl_map_step (f := Step.where)
    (g := fun e ws => { e with wheres := e.wheres ++ ws }) (by simp) (by simp [Expression.apply])
  have horders := foldl_map_step (f := Step.orderBy)
    (g := fun e os => { e with orderBy := e.orderBy ++ os }) (by simp) (by simp [Expression.apply])
  simp only [Expression.steps, List.foldl_append, List.foldl_cons, hjoins, hwheres, horders]
  obtain ⟨base, select, joins, wheres, orderBy, limit⟩ := e
  cases select <;> cases limit <;> simp [Expression.apply]

theorem Expression.IsPlain.steps {e : Expression} (h : e.IsPlain) :
    ∀ step ∈ e.steps, step.IsPlain := by
  simp only [Expression.steps, List.forall_mem_append, List.forall_mem_cons, List.forall_mem_map]
  refine ⟨h.base, ⟨⟨⟨h.joins, ?_⟩, h.wheres⟩, h.orderBy⟩, ?_⟩
  · intro step hstep
    split at hstep
    next => cases hstep
    next hne =>
      obtain rfl := List.mem_singleton.1 hstep
      exact ⟨by rwa [List.isEmpty_iff] at hne, h.select⟩
  · intro step hstep
    obtain ⟨n, hn, rfl⟩ := Option.map_eq_some_iff.1 (Option.mem_toList.1 hstep)
    exact h.limit n hn

theorem getLast?_call (call : Call) : call.chars.getLast? = some ')' := by
  rw [Call.chars, ← List.cons_append, ← List.append_assoc, List.getLast?_concat]

theorem getLast?_intercalate {sep : List Char} {c : Char} {ps : List (List Char)} (hne : ps ≠ [])
    (h : ∀ p ∈ ps, p.getLast? = some c) : (sep.intercalate ps).getLast? = some c := by
  induction ps with
  | nil => exact absurd rfl hne
  | cons p ps ih =>
    rw [List.forall_mem_cons] at h
    cases ps with
    | nil => rw [List.intercalate_singleton, h.1]
    | cons p' ps =>
      rw [List.intercalate_cons_of_ne_nil (List.cons_ne_nil _ _), List.getLast?_append,
        ih (List.cons_ne_nil _ _) h.2]
      rfl

theorem head?_call_table (t : NamedTable) : (Step.table t).call.chars.head? = some 't' := by
  rw [Call.chars, List.head?_append, show (Step.table t).call.method = "table" from rfl,
    show "table".toList.head? = some 't' by decide]
  rfl

/-- The text of an expression begins with the name of a method. -/
theorem Expression.head?_text (e : Expression) : e.text.toList.head? = some 't' := by
  obtain ⟨rest, hrest⟩ := isPrefix_intercalate arrow (Step.table e.base).call.chars
    ((e.steps.map fun step => step.call.chars).tail)
  have htext : e.text.toList = (Step.table e.base).call.chars ++ rest := by
    rw [Expression.text, String.toList_ofList]
    exact hrest.symm
  rw [htext, List.head?_append, head?_call_table]
  rfl

/-- The text of an expression ends with the parenthesis of its last call. -/
theorem Expression.getLast?_text (e : Expression) : e.text.toList.getLast? = some ')' := by
  rw [Expression.text, String.toList_ofList]
  refine getLast?_intercalate (List.cons_ne_nil _ _) fun p hp => ?_
  obtain ⟨step, -, rfl⟩ := List.mem_map.1 hp
  exact getLast?_call step.call

/-- The text of an expression has no blanks at its ends. -/
theorem Expression.trimChars_text (e : Expression) : trimChars e.text.toList = e.text.toList := by
  apply trimChars_eq_self_of_ends
  · rw [e.head?_text]
    simpa using (by decide : isBlank 't' = false)
  · rw [e.getLast?_text]
    simpa using (by decide : isBlank ')' = false)

/-- An expression that is written is read back. -/
theorem Expression.read_text {e : Expression} (h : e.IsPlain) : Expression.read e.text = .ok e := by
  -- each call is a segment, so cutting finds the calls again
  have hcalls : ∀ cs ∈ e.steps.map (fun step => step.call.chars),
      IsSegment false cs ∧ isQuotedAfter false cs = false := by
    intro cs hcs
    obtain ⟨step, hstep, rfl⟩ := List.mem_map.1 hcs
    exact (h.steps step hstep).call.isSegment
  have hsegments : segments e.text.toList = e.steps.map fun step => step.call.chars := by
    rw [Expression.text, String.toList_ofList]
    exact segments_intercalate (List.cons_ne_nil _ _) (fun cs hcs => (hcalls cs hcs).1)
      fun cs hcs => (hcalls cs hcs).2
  have hne : e.text.toList ≠ [] := by
    intro hnil
    have hhead := e.head?_text
    rw [hnil] at hhead
    cases hhead
  rw [Expression.read_eq_ok_iff, e.trimChars_text, hsegments]
  exact ⟨hne, e.steps, readSteps_calls h.steps 0, foldl_steps e, h.base.1.1⟩

/-- Delimiters of every layer within quoted texts, and an integer with a sign. -/
theorem Expression.read_text_delimiters :
    let e : Expression :=
      { base := ⟨"notes", "n"⟩
        joins := [⟨⟨"units", "u"⟩, ⟨some "u", "id", "u.id"⟩, ⟨some "n", "unit", "n.unit"⟩⟩]
        select := [⟨some "n", "id", "n.id"⟩, ⟨none, "a->b(c)", "a->b(c)"⟩]
        wheres := [⟨⟨none, "name", "name"⟩, .like, .text "a->b, (c)->take(5)\n"⟩,
          ⟨⟨some "n", "id", "n.id"⟩, .compare .atLeast, .int (-5)⟩]
        orderBy := [⟨⟨some "n", "id", "n.id"⟩, .descending⟩]
        limit := some 3 }
    e.IsPlain ∧
      e.text = "table('notes as n')->join('units as u','u.id','=','n.unit')" ++
        "->select('n.id','a->b(c)')->where('name','like','a->b, (c)->take(5)\n')" ++
        "->where('n.id','>=',-5)->orderby('n.id','desc')->take(3)" ∧
      Expression.read e.text = .ok e := by
  intro e
  have he : e.IsPlain :=
    { base := by decide +kernel, joins := by decide +kernel, select := by decide +kernel
      wheres := by decide +kernel, orderBy := by decide +kernel
      limit := fun n hn => Option.some.inj hn ▸ by decide }
  exact ⟨he, by decide +kernel, Expression.read_text he⟩

end TenantGate.Query
