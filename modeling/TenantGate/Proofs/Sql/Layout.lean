import TenantGate.Proofs.Sql.Lexeme
/-!
# Statements within a vocabulary

A statement fits a vocabulary if the names and the types that it is made of do; then its tokens are
phrased, and so its text is within the vocabulary (`Statement.Fits.isWithin`). There is one
predicate and one lemma for each part of a statement, in the order in which statements are laid out.
-/

namespace TenantGate.Sql

variable {v : Vocabulary}

/-! ### Parts

Every name that a part is made of has to be one of the vocabulary, every type that a value is cast
to one of its types, and two names that the part puts together with a dot one of its pairs. -/

def TableName.Fits (v : Vocabulary) (t : TableName) : Prop :=
  v.names t.schema ∧ v.names t.name ∧ v.pairs t.schema t.name

def ColumnName.Fits (v : Vocabulary) (c : ColumnName) : Prop :=
  v.names c.name ∧ ∀ q, c.qualifier = some q → v.names q ∧ v.pairs q c.name

def Bound.Fits (v : Vocabulary) (b : Bound) : Prop := ∀ type, b.castTo = some type → v.types type

def Output.Fits (v : Vocabulary) (o : Output) : Prop :=
  o.column.Fits v ∧ ∀ l, o.label = some l → v.names l

def Assignment.Fits (v : Vocabulary) (a : Assignment) : Prop := v.names a.column ∧ a.value.Fits v

def Condition.Fits (v : Vocabulary) : Condition → Prop
  | compare c _ b => c.Fits v ∧ b.Fits v
  | isNull c | resembles c _ => c.Fits v

def Filter.Fits (v : Vocabulary) (f : Filter) : Prop := ∀ c ∈ f.all ++ f.any, c.Fits v

structure Join.Fits (v : Vocabulary) (j : Join) : Prop where
  table : j.table.Fits v
  aliasName : v.names j.aliasName
  left : j.left.Fits v
  right : j.right.Fits v

structure Query.Fits (v : Vocabulary) (q : Query) : Prop where
  outputs : ∀ o ∈ q.outputs, o.Fits v
  table : q.table.Fits v
  aliasName : ∀ a, q.aliasName = some a → v.names a
  joins : ∀ j ∈ q.joins, j.Fits v
  filter : q.filter.Fits v
  order : ∀ t ∈ q.order, t.1.Fits v

/-- The names and the types of a statement are in the vocabulary. -/
def Statement.Fits (v : Vocabulary) : Statement → Prop
  | insert t assignments returning =>
    t.Fits v ∧ (∀ a ∈ assignments, a.Fits v) ∧ returning.Fits v
  | select q => q.Fits v
  | count t f | delete t f => t.Fits v ∧ f.Fits v
  | update t assignments f => t.Fits v ∧ (∀ a ∈ assignments, a.Fits v) ∧ f.Fits v
  | ping => True

/-! ### Their tokens

A part that fits is phrased on its own. Parts are put together by `Phrased.append`, for which what
comes after a name or a value has to open with a word; so the parts that may be empty are shown to
open as well. -/

theorem phrased_word {w : Word} (hw : w ≠ .dot) : Phrased v [.word w] := .word hw .nil

theorem phrased_name {s : String} (h : v.names s) : Phrased v [.name s] := .name h opens_nil .nil

theorem Bound.Fits.phrased {b : Bound} (h : b.Fits v) : Phrased v [.bound b] :=
  .bound h opens_nil .nil

theorem TableName.Fits.phrased {t : TableName} (h : t.Fits v) : Phrased v t.tokens :=
  .pair h.1 h.2.1 h.2.2 opens_nil .nil

/-- A column is a name, or a pair under the alias of its table. -/
theorem ColumnName.Fits.phrased {c : ColumnName} (h : c.Fits v) : Phrased v c.tokens := by
  obtain ⟨_ | q, name⟩ := c
  · exact phrased_name h.1
  · obtain ⟨hq, hpair⟩ := h.2 q rfl
    exact .pair hq h.1 hpair opens_nil .nil

theorem Output.Fits.phrased {o : Output} (h : o.Fits v) : Phrased v o.tokens := by
  obtain ⟨column, asText, label⟩ := o
  obtain ⟨hcolumn, hlabel⟩ := h
  have hread : Phrased v (column.tokens ++ if asText then [.word .textCast] else []) := by
    cases asText with
    | true => exact hcolumn.phrased.append_word (by decide) .nil
    | false => exact hcolumn.phrased.append .nil opens_nil
  cases label with
  | none => exact hread.append .nil opens_nil
  | some l => exact hread.append_word (by decide) (phrased_name (hlabel l rfl))

/-- The dot stands for no comparison; it is kept for pairs of names. -/
theorem Comparison.word_ne_dot (op : Comparison) : op.word ≠ .dot := by
  cases op <;> decide

/-- A condition begins with its column and binds one value at most. -/
theorem Condition.Fits.phrased {c : Condition} (h : c.Fits v) : Phrased v c.tokens := by
  cases c with
  | compare column op b =>
    obtain ⟨hcolumn, hb⟩ := h
    exact hcolumn.phrased.append_word op.word_ne_dot hb.phrased
  | isNull column =>
    have hcolumn : column.Fits v := h
    exact hcolumn.phrased.append_word (by decide) .nil
  | resembles column pattern =>
    have hcolumn : column.Fits v := h
    have hpattern : Bound.Fits v ⟨.text pattern, none⟩ := by
      rintro type ⟨⟩
    have hcast : Phrased v (.word .castOpen :: column.tokens) := .word (by decide) hcolumn.phrased
    exact hcast.append_word (by decide) hpattern.phrased

/-- Conditions with one word between them, `AND` or `OR`. -/
theorem phrased_conditions {w : Word} (hw : w ≠ .dot) {cs : List Condition}
    (h : ∀ c ∈ cs, c.Fits v) : Phrased v (separated w (cs.map Condition.tokens)) := by
  refine Phrased.separated hw fun p hp => ?_
  obtain ⟨c, hc, rfl⟩ := List.mem_map.1 hp
  exact (h c hc).phrased

/-- The clause of a filter, its alternatives between parentheses. -/
theorem Filter.Fits.phrased {f : Filter} (h : f.Fits v) : Phrased v f.tokens := by
  refine Phrased.separated (by decide) fun p hp => ?_
  rcases List.mem_append.1 hp with hp | hp
  · obtain ⟨c, hc, rfl⟩ := List.mem_map.1 hp
    exact (h c (List.mem_append_left _ hc)).phrased
  · split at hp
    · cases hp
    · obtain rfl := List.mem_singleton.1 hp
      have hany : Phrased v (separated .or (f.any.map Condition.tokens)) :=
        phrased_conditions (by decide) fun c hc => h c (List.mem_append_right _ hc)
      have hgroup : Phrased v (.word .openGroup :: separated .or (f.any.map Condition.tokens)) :=
        .word (by decide) hany
      exact hgroup.append_word (by decide) .nil

theorem Join.Fits.phrased {j : Join} (h : j.Fits v) : Phrased v j.tokens := by
  have htable : Phrased v (.word .join :: j.table.tokens) := .word (by decide) h.table.phrased
  have hleft : Phrased v (.name j.aliasName :: .word .on :: j.left.tokens) :=
    .name h.aliasName (opens_word _ _) (.word (by decide) h.left.phrased)
  exact (htable.append_word (by decide) hleft).append_word (by decide) h.right.phrased

/-- Each join begins with a word, so joins may follow the name of a table. -/
theorem phrased_joins {joins : List Join} (h : ∀ j ∈ joins, j.Fits v) :
    Phrased v (joins.flatMap Join.tokens) ∧ Opens (joins.flatMap Join.tokens) := by
  induction joins with
  | nil => exact ⟨.nil, opens_nil⟩
  | cons j joins ih =>
    obtain ⟨hrest, hopens⟩ := ih fun k hk => h k (List.mem_cons_of_mem _ hk)
    exact ⟨(h j List.mem_cons_self).phrased.append hrest hopens, opens_word _ _⟩

theorem Direction.word_ne_dot (d : Direction) : d.word ≠ .dot := by
  cases d <;> decide

/-- The order may be empty, and begins with a word otherwise. -/
theorem phrased_order {order : List (ColumnName × Direction)} (h : ∀ t ∈ order, t.1.Fits v) :
    Phrased v (orderTokens order) ∧ Opens (orderTokens order) := by
  unfold orderTokens
  split
  · exact ⟨.nil, opens_nil⟩
  · refine ⟨.word (by decide) (Phrased.separated (by decide) fun p hp => ?_), opens_word _ _⟩
    obtain ⟨⟨c, d⟩, ht, rfl⟩ := List.mem_map.1 hp
    have hcolumn : c.Fits v := h (c, d) ht
    exact hcolumn.phrased.append_word d.word_ne_dot .nil

/-- Numbers are bound without a type. -/
theorem phrased_extent (e : Extent) : Phrased v e.tokens ∧ Opens e.tokens := by
  have hnumber : ∀ i, Bound.Fits v (.ofInt64 i) := by
    rintro i type ⟨⟩
  cases e with
  | everything => exact ⟨.nil, opens_nil⟩
  | first => exact ⟨phrased_word (by decide), opens_word _ _⟩
  | atMost limit => exact ⟨.word (by decide) (hnumber limit).phrased, opens_word _ _⟩
  | slice limit offset =>
    have hoffset : Phrased v [.word .offset, .bound (.ofInt64 offset)] :=
      .word (by decide) (hnumber offset).phrased
    exact ⟨.word (by decide) (.bound (hnumber limit) (opens_word _ _) hoffset), opens_word _ _⟩

/-- An alias comes after a word of its own. -/
theorem phrased_alias {a : Option String} (h : ∀ s, a = some s → v.names s) :
    Phrased v (aliasTokens a) ∧ Opens (aliasTokens a) := by
  cases a with
  | none => exact ⟨.nil, opens_nil⟩
  | some s => exact ⟨.word (by decide) (phrased_name (h s rfl)), opens_word _ _⟩

/-- The columns of a new row, between commas. -/
theorem phrased_columns {as : List Assignment} (h : ∀ a ∈ as, a.Fits v) :
    Phrased v (separated .comma (as.map fun a => [.name a.column])) := by
  refine Phrased.separated (by decide) fun p hp => ?_
  obtain ⟨a, ha, rfl⟩ := List.mem_map.1 hp
  exact phrased_name (h a ha).1

/-- The places of the values of a new row, between commas. -/
theorem phrased_places {as : List Assignment} (h : ∀ a ∈ as, a.Fits v) :
    Phrased v (separated .comma (as.map fun a => [.bound a.value])) := by
  refine Phrased.separated (by decide) fun p hp => ?_
  obtain ⟨a, ha, rfl⟩ := List.mem_map.1 hp
  exact (h a ha).2.phrased

/-- The assignments of an update: each ends in its value, and a comma follows. -/
theorem phrased_assignments {as : List Assignment} (h : ∀ a ∈ as, a.Fits v) :
    Phrased v (separated .comma
      (as.map fun a => [.name a.column, .word .equal, .bound a.value])) := by
  refine Phrased.separated (by decide) fun p hp => ?_
  obtain ⟨a, ha, rfl⟩ := List.mem_map.1 hp
  exact .name (h a ha).1 (opens_word _ _) (.word (by decide) (h a ha).2.phrased)

/-! ### Statements

A query first, as it has most parts; then one case for each kind of statement. -/

theorem Query.Fits.phrased {q : Query} (h : q.Fits v) : Phrased v q.tokens := by
  have houtputs : Phrased v (separated .comma (q.outputs.map Output.tokens)) := by
    refine Phrased.separated (by decide) fun p hp => ?_
    obtain ⟨o, ho, rfl⟩ := List.mem_map.1 hp
    exact (h.outputs o ho).phrased
  have hselect : Phrased v (.word .select :: separated .comma (q.outputs.map Output.tokens)) :=
    .word (by decide) houtputs
  have halias := phrased_alias h.aliasName
  have hjoins := phrased_joins h.joins
  have horder := phrased_order h.order
  have hextent := phrased_extent (v := v) q.extent
  -- Up to the table every part is there; from the aliases on parts may be missing, and what follows
  -- them has to open with a word all the same.
  have hhead : Phrased v q.head :=
    ((hselect.append_word (by decide) h.table.phrased).append halias.1 halias.2).append
      hjoins.1 hjoins.2
  rw [q.tokens_eq]
  exact (hhead.append_word (by decide) h.filter.phrased).append
    (horder.1.append hextent.1 hextent.2) (horder.2.append hextent.2)

/-- The tokens of a statement that fits are phrased. -/
theorem Statement.Fits.phrased {s : Statement} (h : s.Fits v) : Phrased v s.tokens := by
  cases s with
  | insert t as returning =>
    obtain ⟨htable, hassigned, hreturning⟩ := h
    have hhead : Phrased v (.word .insertInto :: t.tokens) := .word (by decide) htable.phrased
    -- t.tokens ++ _ :: The middle is a list of columns and values, or two words where there is no
    -- column.
    show Phrased v (.word .insertInto :: t.tokens ++ _ ++ .word .returning :: returning.tokens)
    refine Phrased.append_word ?_ (by decide) hreturning.phrased
    split
    · exact hhead.append_word (by decide) .nil
    · have hlist : Phrased v (.word .openList :: separated .comma (as.map fun a => [.name a.column])
          ++ .word .values :: separated .comma (as.map fun a => [.bound a.value])) :=
        Phrased.append_word (.word (by decide) (phrased_columns hassigned)) (by decide)
          (phrased_places hassigned)
      exact hhead.append (hlist.append_word (by decide) .nil) (opens_word _ _)
  | select q =>
    have hquery : q.Fits v := h
    exact hquery.phrased
  | count t f =>
    obtain ⟨htable, hfilter⟩ := h
    have hhead : Phrased v (.word .selectCount :: .word .fromTable :: t.tokens) :=
      .word (by decide) (.word (by decide) htable.phrased)
    exact hhead.append_word (by decide) hfilter.phrased
  | update t as f =>
    obtain ⟨htable, hassigned, hfilter⟩ := h
    have hhead : Phrased v (.word .update :: t.tokens) := .word (by decide) htable.phrased
    have hset := hhead.append_word (w := .set) (by decide) (phrased_assignments hassigned)
    exact hset.append_word (by decide) hfilter.phrased
  | delete t f =>
    obtain ⟨htable, hfilter⟩ := h
    have hhead : Phrased v (.word .deleteFrom :: t.tokens) := .word (by decide) htable.phrased
    exact hhead.append_word (by decide) hfilter.phrased
  | ping => exact phrased_word (by decide)

/-- The text of a statement that fits a vocabulary is within it. -/
theorem Statement.Fits.isWithin {s : Statement} (h : s.Fits v)
    (htypes : ∀ type, v.types type → IsTypeText type) : s.IsWithin v :=
  isWithin_of_phrased h.phrased htypes

end TenantGate.Sql
