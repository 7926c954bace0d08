import TenantGate.Proofs.Data.Interpretation
import TenantGate.Proofs.Table.Access
/-!
# Isolation of tenants

A tenant's rows in a table are those that have the scope's value in the scope's column. Operations
on a table see only those rows and change only those rows: on two databases that agree on them,

    perform_congr : Agree db₁ db₂ → perform db₁ and perform db₂ give the same, and agree afterwards

so nothing that an operation gives tells of the rows of others, and `perform_untouched` says that
these rows stay as they are. Both follow from what one statement does (`execute_congr`,
`execute_untouched`) along the conversation of an operation.
-/

namespace TenantGate.Data

open Sql Server TenantGate.Action

variable {Datum : Type}

namespace Interpretation

variable (I : Interpretation Datum) (table : TableName) (column : String) (b : Bound)

/-! ### Two databases

A relation between two databases for what a tenant can tell, and one between before and after for
what it leaves alone. -/

/-- Two databases hold the same rows with the value. -/
def Agree (db₁ db₂ : Database Datum) : Prop :=
  (db₁ table).filter (I.owns column b) = (db₂ table).filter (I.owns column b)

/-- Every row without the value is as it was, and so is every other table. -/
def Untouched (db db' : Database Datum) : Prop :=
  ((db' table).filter fun row => !I.owns column b row) =
      ((db table).filter fun row => !I.owns column b row) ∧
    ∀ t, t ≠ table → db' t = db t

variable {I table column b} {f : Filter} {db db₁ db₂ : Database Datum}

/-- To do nothing touches nothing. -/
theorem Untouched.refl (db : Database Datum) : I.Untouched table column b db db :=
  ⟨rfl, fun _ _ => rfl⟩

/-- What two steps leave alone, both leave alone. -/
theorem Untouched.trans {db' db'' : Database Datum} (h : I.Untouched table column b db db')
    (h' : I.Untouched table column b db' db'') : I.Untouched table column b db db'' :=
  ⟨h'.1.trans h.1, fun t ht => (h'.2 t ht).trans (h.2 t ht)⟩

/-! ### One statement

The step. Each kind of statement with a `WHERE` clause picks its rows from those that have the
value, so what it does can be computed from these. -/

/-- Among all rows a clause that demands the value keeps what it keeps among those with the value.
-/
theorem filter_keeps (hf : f.Demands column b) (rows : List (Row Datum)) :
    (rows.filter fun row => I.keeps f [(none, row)]) =
      (rows.filter (I.owns column b)).filter fun row => I.keeps f [(none, row)] := by
  rw [List.filter_filter]
  refine List.filter_congr fun row _ => ?_
  cases hkeeps : I.keeps f [(none, row)] with
  | false => rw [Bool.false_and]
  | true => rw [owns_of_keeps I hf hkeeps, Bool.and_self]

/-- On databases that agree, a clause that demands the value keeps the same rows. -/
theorem Agree.filter_keeps (h : I.Agree table column b db₁ db₂) (hf : f.Demands column b) :
    ((db₁ table).filter fun row => I.keeps f [(none, row)]) =
      (db₂ table).filter fun row => I.keeps f [(none, row)] := by
  rw [Interpretation.filter_keeps hf, h, ← Interpretation.filter_keeps hf]

/-- A change of rows that leaves each row whose it is. -/
theorem filter_owns_map {g : Row Datum → Row Datum}
    (hg : ∀ row, I.owns column b (g row) = I.owns column b row) (rows : List (Row Datum)) :
    (rows.map g).filter (I.owns column b) = (rows.filter (I.owns column b)).map g := by
  rw [List.filter_map]
  exact congrArg _ (List.filter_congr fun row _ => hg row)

/-- An update that demands the value and does not assign the column leaves each row whose it is. -/
theorem owns_update {assignments : List Assignment} (h : ∀ a ∈ assignments, a.column ≠ column)
    (row : Row Datum) :
    I.owns column b (if I.keeps f [(none, row)] then I.assign assignments row else row) =
      I.owns column b row := by
  split
  · exact owns_assign I h
  · rfl

/-- A statement that is bound to the value gives the same on databases that agree, and they agree
after it. -/
theorem execute_congr {st : Statement} (hbound : st.BoundTo table column b)
    (hf : st.filter? = some f) (h : I.Agree table column b db₁ db₂) :
    (I.execute db₁ st).1 = (I.execute db₂ st).1 ∧
      I.Agree table column b (I.execute db₁ st).2 (I.execute db₂ st).2 := by
  cases st with
  | insert t assignments returning => cases hf
  | ping => cases hf
  | select q =>
    obtain ⟨rfl, halias, hjoins, hdemands⟩ := hbound
    have hfound : I.found db₁ q = I.found db₂ q := by
      rw [I.found_eq halias hjoins, I.found_eq halias hjoins, h.filter_keeps hdemands]
    exact ⟨by rw [execute, execute, hfound], h⟩
  | count t f =>
    obtain ⟨rfl, hdemands⟩ := hbound
    exact ⟨by rw [execute, execute, h.filter_keeps hdemands], h⟩
  | update t assignments f =>
    obtain ⟨rfl, hdemands, hassigned⟩ := hbound
    refine ⟨by rw [execute, execute, h.filter_keeps hdemands], ?_⟩
    show (Database.set db₁ t _ t).filter _ = (Database.set db₂ t _ t).filter _
    rw [Database.set_same, Database.set_same, filter_owns_map (owns_update hassigned),
      filter_owns_map (owns_update hassigned), h]
  | delete t f =>
    obtain ⟨rfl, hdemands⟩ := hbound
    refine ⟨by rw [execute, execute, h.filter_keeps hdemands], ?_⟩
    show (Database.set db₁ t _ t).filter _ = (Database.set db₂ t _ t).filter _
    -- the rows of the value and the rows kept can be picked in either order
    have hcomm : ∀ rows : List (Row Datum),
        (rows.filter fun row => !I.keeps f [(none, row)]).filter (I.owns column b) =
          (rows.filter (I.owns column b)).filter fun row => !I.keeps f [(none, row)] := by
      intro rows
      rw [List.filter_filter, List.filter_filter]
      exact List.filter_congr fun row _ => Bool.and_comm _ _
    rw [Database.set_same, Database.set_same, hcomm, hcomm, h]

/-- A clause that demands the value keeps no row without it. -/
theorem keeps_eq_false (hf : f.Demands column b) {row : Row Datum}
    (hnot : (!I.owns column b row) = true) : I.keeps f [(none, row)] = false := by
  cases hkeeps : I.keeps f [(none, row)] with
  | false => rfl
  | true =>
    rw [owns_of_keeps I hf hkeeps] at hnot
    cases hnot

/-- An update within the value leaves the rows without it. -/
theorem filter_others_update {assignments : List Assignment} (hf : f.Demands column b)
    (h : ∀ a ∈ assignments, a.column ≠ column) (rows : List (Row Datum)) :
    ((rows.map fun row => if I.keeps f [(none, row)] then I.assign assignments row else row).filter
        fun row => !I.owns column b row) = rows.filter fun row => !I.owns column b row := by
  have hsame : (fun row => !I.owns column b row) ∘
      (fun row => if I.keeps f [(none, row)] then I.assign assignments row else row) =
      fun row => !I.owns column b row :=
    funext fun row => congrArg (!·) (owns_update h row)
  rw [List.filter_map, hsame, List.map_congr_left (g := id), List.map_id]
  -- what is left to change are rows without the value, and of these none is kept
  intro row hrow
  have hnot := keeps_eq_false hf (List.mem_filter.1 hrow).2
  exact if_neg (by simp [hnot])

/-- A removal within the value leaves the rows without it. -/
theorem filter_others_delete (hf : f.Demands column b) (rows : List (Row Datum)) :
    ((rows.filter fun row => !I.keeps f [(none, row)]).filter fun row => !I.owns column b row) =
      rows.filter fun row => !I.owns column b row := by
  rw [List.filter_filter]
  refine List.filter_congr fun row _ => ?_
  cases hnot : (!I.owns column b row) with
  | false => rfl
  | true =>
    rw [keeps_eq_false hf hnot]
    rfl

/-- A statement that is bound to the value does not touch rows without it. -/
theorem execute_untouched {st : Statement} (hbound : st.BoundTo table column b)
    (hf : st.filter? = some f) : I.Untouched table column b db (I.execute db st).2 := by
  cases st with
  | insert t assignments returning => cases hf
  | ping => cases hf
  | select q => exact .refl db
  | count t f => exact .refl db
  | update t assignments f =>
    obtain ⟨rfl, hdemands, hassigned⟩ := hbound
    refine ⟨?_, fun t' ht' => Database.set_other db _ ht'⟩
    show (Database.set db t _ t).filter _ = _
    rw [Database.set_same, filter_others_update hdemands hassigned]
  | delete t f =>
    obtain ⟨rfl, hdemands⟩ := hbound
    refine ⟨?_, fun t' ht' => Database.set_other db _ ht'⟩
    show (Database.set db t _ t).filter _ = _
    rw [Database.set_same, filter_others_delete hdemands]

end Interpretation

/-! ### Operations

The run. An operation is a conversation in which every statement is bound; the two step lemmas carry
over to it whatever it does with the replies in between. -/

/-- What can be asked of the rows of a table. -/
inductive Operation where
  | find (key : Value)
  | update (key : Value) (r : Record)
  | delete (key : Value)
  | page (r : Listing) (defaultSize : Int64)

namespace Operation

/-- What an operation gives. -/
def Answer : Operation → Type
  | find _ => Json
  | update .. | delete _ => Unit
  | page .. => List Json × PageInfo

/-- The operation as an action. -/
def run (t : TenantTable) : (o : Operation) → Action o.Answer
  | find key => t.find key
  | update key r => t.update key r
  | delete key => t.delete key
  | page r defaultSize => t.page r defaultSize

/-- All that an operation asks for is within the scope. -/
theorem asks_run (t : TenantTable) (o : Operation) : (o.run t).Asks t.AllowsExisting := by
  cases o with
  | find key => exact t.asks_find key
  | update key r => exact t.asks_update key r
  | delete key => exact t.asks_delete key
  | page r defaultSize => exact t.asks_page r defaultSize

end Operation

namespace Interpretation

variable (I : Interpretation Datum)

/-- What an operation gives when it is done on a database, and the database after it. The script
answers what is not a statement. -/
def perform (s : Script) (c : TableCache) (t : TenantTable) (o : Operation) (db : Database Datum) :
    Except Failure o.Answer × Database Datum :=
  let played := (o.run t c).play (I.reply s) db
  (played.1.1, played.2.2)

variable {I} {s : Script} {t : TenantTable}

/-- A request within the scope is answered alike on databases that agree. -/
theorem reply_congr {q : Request} {db₁ db₂ : Database Datum} (hq : t.AllowsExisting q)
    (h : I.Agree t.table.sqlName t.scope.column (t.table.bound t.scope) db₁ db₂) :
    (I.reply s q db₁).1 = (I.reply s q db₂).1 ∧
      I.Agree t.table.sqlName t.scope.column (t.table.bound t.scope)
        (I.reply s q db₁).2 (I.reply s q db₂).2 := by
  cases q with
  | execute st =>
    obtain ⟨f, hf⟩ := hq.2 st rfl
    exact execute_congr (hq.1 st rfl) hf h
  | _ => exact ⟨rfl, h⟩

/-- A request within the scope does not touch the rows of others. -/
theorem reply_untouched {q : Request} {db : Database Datum} (hq : t.AllowsExisting q) :
    I.Untouched t.table.sqlName t.scope.column (t.table.bound t.scope) db (I.reply s q db).2 := by
  cases q with
  | execute st =>
    obtain ⟨f, hf⟩ := hq.2 st rfl
    exact execute_untouched (hq.1 st rfl) hf
  | _ => exact .refl db

/-- The same of every run. -/
theorem run_allows {o : Operation} {c : TableCache} {es : List Exchange}
    {a : Except Failure o.Answer × TableCache} (h : (o.run t c).Run es a) :
    ∀ e ∈ es, t.AllowsExisting e.1 :=
  o.asks_run t h

variable {c : TableCache} {o : Operation} {db db₁ db₂ : Database Datum}

/-- An operation gives the same on databases that agree, and they agree after it. -/
theorem perform_congr (h : I.Agree t.table.sqlName t.scope.column (t.table.bound t.scope) db₁ db₂) :
    (I.perform s c t o db₁).1 = (I.perform s c t o db₂).1 ∧
      I.Agree t.table.sqlName t.scope.column (t.table.bound t.scope)
        (I.perform s c t o db₁).2 (I.perform s c t o db₂).2 := by
  obtain ⟨hvalue, -, hagree⟩ := Program.play_congr (I.reply s) run_allows
    (fun q _ _ hq hagree => reply_congr hq hagree) h
  have hanswer := congrArg Prod.fst hvalue
  exact ⟨hanswer, hagree⟩

/-- An operation does not touch the rows of others. -/
theorem perform_untouched :
    I.Untouched t.table.sqlName t.scope.column (t.table.bound t.scope) db
      (I.perform s c t o db).2 :=
  Program.play_preserves (I.reply s) run_allows
    (fun _ _ hq huntouched => huntouched.trans (reply_untouched hq)) (Untouched.refl db)

/-- An operation gives the same on databases that hold the same rows of the tenant, and they hold
the same rows of the tenant after it; the rows of others are not touched. -/
theorem perform_isolated (I : Interpretation Datum) (s : Script) (c : TableCache) (t : TenantTable)
    (o : Operation) {db₁ db₂ : Database Datum}
    (h : I.Agree t.table.sqlName t.scope.column (t.table.bound t.scope) db₁ db₂) :
    (I.perform s c t o db₁).1 = (I.perform s c t o db₂).1 ∧
      I.Agree t.table.sqlName t.scope.column (t.table.bound t.scope)
        (I.perform s c t o db₁).2 (I.perform s c t o db₂).2 ∧
      I.Untouched t.table.sqlName t.scope.column (t.table.bound t.scope)
        db₁ (I.perform s c t o db₁).2 := by
  obtain ⟨hvalue, hagree⟩ := perform_congr (s := s) (c := c) (o := o) h
  exact ⟨hvalue, hagree, perform_untouched⟩

/-- The key of a row of tenant 7 is reported to tenant 42 as it is where that row is missing, and
the row stays. -/
theorem perform_isolated_deletion :
    let I : Interpretation Int :=
      { cast := fun b => match b.value with
          | .int i => some i.toInt
          | _ => none
        compare := fun _ x y => x = y
        resembles := fun _ _ => false
        order := fun _ _ _ => .eq
        cell := fun _ _ => .null
        fresh := fun _ _ _ => none }
    let s : Script := { catalog := fun _ _ => .error .unreachable, replies := [] }
    let c : TableCache := { lifetime := TableCache.defaultLifetime }
    let t : TenantTable :=
      ⟨{ schema := "public", name := "notes", primaryKey := "id", columns := ["id", "company_id"] },
        ⟨"company_id", .int 42⟩⟩
    let row (id company : Int) : Row Int := fun c =>
      if c = "id" then some id else if c = "company_id" then some company else none
    let db₁ : Database Int := fun _ => [row 1 42, row 2 7]
    let db₂ : Database Int := fun _ => [row 1 42]
    I.Agree t.table.sqlName t.scope.column (t.table.bound t.scope) db₁ db₂ ∧
      (I.perform s c t (.delete (.int 2)) db₁).1 =
        (I.perform s c t (.delete (.int 2)) db₂).1 ∧
      I.Untouched t.table.sqlName t.scope.column (t.table.bound t.scope) db₁
        (I.perform s c t (.delete (.int 2)) db₁).2 := by
  intro I s c t row db₁ db₂
  have h : I.Agree t.table.sqlName t.scope.column (t.table.bound t.scope) db₁ db₂ := rfl
  have hisolated := perform_isolated I s c t (.delete (.int 2)) h
  exact ⟨h, hisolated.1, hisolated.2.2⟩

/-- Operations one after the other, with what each of them gives. -/
def performAll (I : Interpretation Datum) (s : Script) (c : TableCache) (t : TenantTable) :
    List Operation → Database Datum →
      List ((o : Operation) × Except Failure o.Answer) × Database Datum
  | [], db => ([], db)
  | o :: os, db =>
    let first := I.perform s c t o db
    let rest := performAll I s c t os first.2
    (⟨o, first.1⟩ :: rest.1, rest.2)

/-- However long a tenant works on a table, what it is given depends on its own rows alone. -/
theorem performAll_congr (os : List Operation)
    (h : I.Agree t.table.sqlName t.scope.column (t.table.bound t.scope) db₁ db₂) :
    (I.performAll s c t os db₁).1 = (I.performAll s c t os db₂).1 ∧
      I.Agree t.table.sqlName t.scope.column (t.table.bound t.scope)
        (I.performAll s c t os db₁).2 (I.performAll s c t os db₂).2 := by
  -- The induction is on the operations; what one leaves is what the next begins with.
  induction os generalizing db₁ db₂ with
  | nil => exact ⟨rfl, h⟩
  | cons o os ih =>
    obtain ⟨hvalue, hagree⟩ := perform_congr (s := s) (c := c) (o := o) h
    obtain ⟨hvalues, hend⟩ := ih hagree
    refine ⟨?_, hend⟩
    show (⟨o, (I.perform s c t o db₁).1⟩ :: (I.performAll s c t os (I.perform s c t o db₁).2).1 :
      List ((o : Operation) × Except Failure o.Answer)) = ⟨o, (I.perform s c t o db₂).1⟩ :: _
    rw [hvalue, hvalues]

/-- However long a tenant works on a table, the rows of others stay as they are. -/
theorem performAll_untouched (os : List Operation) :
    I.Untouched t.table.sqlName t.scope.column (t.table.bound t.scope) db
      (I.performAll s c t os db).2 := by
  induction os generalizing db with
  | nil => exact .refl db
  | cons o os ih => exact perform_untouched.trans ih

end Interpretation
end TenantGate.Data
