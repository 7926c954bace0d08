import TenantGate.Sql.Text
/-!
# Clauses as formulas

A `WHERE` clause is read as a formula by the precedence of SQL: `AND` binds tighter than `OR`, both
to the left, and parentheses group. The tokens are first cut into symbols (`Symbol.readAll`), which
are then read from the left with a stack of open groups (`Formula.read`). A filter is written so
that the formula is what the filter says, its conditions and one group of alternatives:

    read_tokens : Formula.ofTokens? f.tokens = f.formula?

The value of a formula is one of three, as conditions on a missing value are neither true nor false
(`Filter.meets_iff`).
-/

namespace TenantGate.Sql

/-! ### Three truth values

A comparison with a missing value is unknown. A row is taken only where the whole clause is true, so
it is enough to know when a conjunction and a disjunction are. -/

/-- The truth values of SQL. -/
inductive Truth where
  | yes
  | no
  | unknown
  deriving DecidableEq, Repr

namespace Truth

def ofBool (b : Bool) : Truth := if b then yes else no

/-- True where both are, false where one is. -/
def and : Truth → Truth → Truth
  | yes, q => q
  | no, _ => no
  | unknown, no => no
  | unknown, _ => unknown

/-- True where one is, false where both are. -/
def or : Truth → Truth → Truth
  | yes, _ => yes
  | no, q => q
  | unknown, yes => yes
  | unknown, _ => unknown

theorem and_eq_yes {p q : Truth} : p.and q = yes ↔ p = yes ∧ q = yes := by
  cases p <;> cases q <;> decide

theorem or_eq_yes {p q : Truth} : p.or q = yes ↔ p = yes ∨ q = yes := by
  cases p <;> cases q <;> decide

@[simp] theorem ofBool_eq_yes {b : Bool} : ofBool b = yes ↔ b = true := by
  cases b <;> decide

end Truth

/-! ### Formulas

`andAll` and `orAny` build to the left, as the reader does. -/

/-- A clause as SQL understands it. -/
inductive Formula where
  | test (c : Condition)
  | and (p q : Formula)
  | or (p q : Formula)
  deriving DecidableEq

namespace Formula

/-- The value of a formula, given that of each condition. -/
def eval (truth : Condition → Truth) : Formula → Truth
  | test c => truth c
  | and p q => (p.eval truth).and (q.eval truth)
  | or p q => (p.eval truth).or (q.eval truth)

def andAll (p : Formula) (cs : List Condition) : Formula := cs.foldl (fun p c => p.and (test c)) p

def orAny (p : Formula) (cs : List Condition) : Formula := cs.foldl (fun p c => p.or (test c)) p

variable {truth : Condition → Truth}

/-- A conjunction of conditions is true where each of them is. -/
theorem eval_andAll {p : Formula} {cs : List Condition} :
    (p.andAll cs).eval truth = .yes ↔ p.eval truth = .yes ∧ ∀ c ∈ cs, truth c = .yes := by
  induction cs generalizing p with
  | nil => simp [andAll]
  | cons c cs ih =>
    show ((p.and (test c)).andAll cs).eval truth = .yes ↔ _
    rw [ih, eval, Truth.and_eq_yes, eval, List.forall_mem_cons, and_assoc]

/-- A disjunction of conditions is true where one of them is. -/
theorem eval_orAny {p : Formula} {cs : List Condition} :
    (p.orAny cs).eval truth = .yes ↔ p.eval truth = .yes ∨ ∃ c ∈ cs, truth c = .yes := by
  induction cs generalizing p with
  | nil => simp [orAny]
  | cons c cs ih =>
    show ((p.or (test c)).orAny cs).eval truth = .yes ↔ _
    rw [ih, eval, Truth.or_eq_yes, eval, or_assoc]
    simp

end Formula

/-! ### Symbols

The first half of the reader: tokens are cut into conditions, connectives and parentheses. It reads
whatever a list of symbols is laid out as (`readAll_tokens`). -/

/-- A condition, or a mark between or around conditions. -/
inductive Symbol where
  | condition (c : Condition)
  | and
  | or
  | openGroup
  | closeGroup
  deriving DecidableEq

namespace Symbol

def tokens : Symbol → List Token
  | condition c => c.tokens
  | and => [.word .and]
  | or => [.word .or]
  | openGroup => [.word .openGroup]
  | closeGroup => [.word .closeGroup]

def comparison? : Word → Option Comparison
  | .equal => some .equal
  | .atMost => some .atMost
  | .atLeast => some .atLeast
  | .less => some .less
  | .greater => some .greater
  | _ => none

/-- Read a column, under the alias of a table or not. -/
def readColumn? : List Token → Option (ColumnName × List Token)
  | .name q :: .word .dot :: .name c :: r => some (⟨some q, c⟩, r)
  | .name c :: r => some (⟨none, c⟩, r)
  | _ => none

def readTest? (c : ColumnName) : List Token → Option (Symbol × List Token)
  | .word .isNull :: r => some (condition (.isNull c), r)
  | .word w :: .bound b :: r => (comparison? w).map fun op => (condition (.compare c op b), r)
  | _ => none

/-- Read the pattern that a column's text has to match. -/
def readPattern? (c : ColumnName) : List Token → Option (Symbol × List Token)
  | .word .resembles :: .bound ⟨.text s, none⟩ :: r => some (condition (.resembles c s), r)
  | _ => none

def read? : List Token → Option (Symbol × List Token)
  | .word .and :: r => some (and, r)
  | .word .or :: r => some (or, r)
  | .word .openGroup :: r => some (openGroup, r)
  | .word .closeGroup :: r => some (closeGroup, r)
  | .word .castOpen :: r => (readColumn? r).bind fun (c, r) => readPattern? c r
  | ts => (readColumn? ts).bind fun (c, r) => readTest? c r

theorem length_readColumn? {ts r : List Token} {c : ColumnName} (h : readColumn? ts = some (c, r)) :
    r.length < ts.length := by
  unfold readColumn? at h
  split at h <;> cases h
  · simp only [List.length_cons]
    omega
  · exact Nat.lt_succ_self _

theorem length_readTest? {c : ColumnName} {ts r : List Token} {s : Symbol}
    (h : readTest? c ts = some (s, r)) : r.length < ts.length := by
  unfold readTest? at h
  split at h
  · cases h
    exact Nat.lt_succ_self _
  · obtain ⟨op, -, heq⟩ := Option.map_eq_some_iff.1 h
    cases heq
    simp only [List.length_cons]
    omega
  · cases h

theorem length_readPattern? {c : ColumnName} {ts r : List Token} {s : Symbol}
    (h : readPattern? c ts = some (s, r)) : r.length < ts.length := by
  unfold readPattern? at h
  split at h <;> cases h
  simp only [List.length_cons]
  omega

/-- What is left after a symbol is shorter. -/
theorem length_read? {ts r : List Token} {s : Symbol} (h : read? ts = some (s, r)) :
    r.length < ts.length := by
  unfold read? at h
  split at h
  · cases h
    exact Nat.lt_succ_self _
  · cases h
    exact Nat.lt_succ_self _
  · cases h
    exact Nat.lt_succ_self _
  · cases h
    exact Nat.lt_succ_self _
  · obtain ⟨⟨c, r'⟩, hc, hp⟩ := Option.bind_eq_some_iff.1 h
    have h₁ := length_readColumn? hc
    have h₂ := length_readPattern? hp
    simp only [List.length_cons]
    omega
  · obtain ⟨⟨c, r'⟩, hc, ht⟩ := Option.bind_eq_some_iff.1 h
    have h₁ := length_readColumn? hc
    have h₂ := length_readTest? ht
    omega

def readAll (ts : List Token) : Option (List Symbol) :=
  match ts with
  | [] => some []
  | t :: ts =>
    match h : read? (t :: ts) with
    | none => none
    | some (s, r) =>
      have : r.length < (t :: ts).length := length_read? h
      (readAll r).map (s :: ·)
termination_by ts.length
decreasing_by exact this

/-- Reading all symbols begins with reading one. -/
theorem readAll_of_read? {ts r : List Token} {s : Symbol} (h : read? ts = some (s, r)) :
    readAll ts = (readAll r).map (s :: ·) := by
  cases ts with
  | nil => cases h
  | cons t ts =>
    rw [readAll]
    split
    · next hnone =>
      rw [h] at hnone
      cases hnone
    · next s' r' hsome =>
      rw [h] at hsome
      cases hsome
      rfl

/-- A column is read as it is laid out, unless a dot follows it. -/
theorem readColumn?_tokens (c : ColumnName) {r : List Token} (h : r.head? ≠ some (.word .dot)) :
    readColumn? (c.tokens ++ r) = some (c, r) := by
  obtain ⟨_ | q, name⟩ := c
  · cases r with
    | nil => rfl
    | cons t r =>
      -- a name alone, which what follows does not go on
      unfold readColumn?
      split
      · next heq =>
        cases heq
        exact absurd rfl h
      · next heq =>
        cases heq
        rfl
      · next hnot => exact absurd rfl (hnot _ _)
  · rfl

theorem read?_column (c : ColumnName) (r : List Token) :
    read? (c.tokens ++ r) = (readColumn? (c.tokens ++ r)).bind fun (c, r) => readTest? c r := by
  obtain ⟨_ | q, name⟩ := c <;> rfl

/-- A symbol is read as it is laid out. -/
theorem read?_tokens (s : Symbol) (r : List Token) : read? (s.tokens ++ r) = some (s, r) := by
  cases s with
  | and => rfl
  | or => rfl
  | openGroup => rfl
  | closeGroup => rfl
  | condition c =>
    -- A condition begins with its column; what follows the column tells the kinds apart.
    cases c with
    | compare c op b =>
      have hcolumn := readColumn?_tokens c (r := .word op.word :: .bound b :: r)
        (by cases op <;> simp [Comparison.word])
      have htest : readTest? c (.word op.word :: .bound b :: r) =
          some (condition (.compare c op b), r) := by
        cases op <;> rfl
      show read? ((c.tokens ++ [.word op.word, .bound b]) ++ r) = _
      rw [List.append_assoc, read?_column]
      exact (congrArg (Option.bind · _) hcolumn).trans htest
    | isNull c =>
      have hcolumn := readColumn?_tokens c (r := .word .isNull :: r) (by simp)
      show read? ((c.tokens ++ [.word .isNull]) ++ r) = _
      rw [List.append_assoc, read?_column]
      exact congrArg (Option.bind · _) hcolumn
    | resembles c pattern =>
      have hcolumn := readColumn?_tokens c
        (r := .word .resembles :: .bound ⟨.text pattern, none⟩ :: r) (by simp)
      show (readColumn? ((c.tokens ++ [.word .resembles, .bound ⟨.text pattern, none⟩]) ++ r)).bind
        (fun (c, r) => readPattern? c r) = _
      rw [List.append_assoc]
      exact congrArg (Option.bind · _) hcolumn

/-- Symbols are read as they are laid out. -/
theorem readAll_tokens (ss : List Symbol) : readAll (ss.flatMap tokens) = some ss := by
  induction ss with
  | nil => rw [List.flatMap_nil, readAll]
  | cons s ss ih => rw [List.flatMap_cons, readAll_of_read? (read?_tokens s _), ih, Option.map_some]

end Symbol

/-! ### Precedence

The second half of the reader. Of every group that is open it keeps the alternatives before the last
`OR` and the conjunction since then, so that `AND` binds tighter without the reader looking ahead.
-/

namespace Formula

/-- A group that is being read: the alternatives before the last `OR`, and what was read since. -/
structure Level where
  alternatives : Option Formula := none
  conjunction : Option Formula := none

/-- Go on with a formula after what was read before it, if anything was. -/
def after (before : Option Formula) (join : Formula → Formula → Formula) (p : Formula) : Formula :=
  match before with
  | some q => join q p
  | none => p

mutual

/-- Read where an operand is expected: a condition, or a group. -/
def readOperand (stack : List Level) (level : Level) : List Symbol → Option Formula
  | .condition c :: r =>
    readOperator stack level.alternatives (after level.conjunction and (test c)) r
  | .openGroup :: r => readOperand (level :: stack) {} r
  | _ => none

/-- Read where an operator, the end of a group or the end is expected. -/
def readOperator (stack : List Level) (alternatives : Option Formula) (p : Formula) :
    List Symbol → Option Formula
  | [] => if stack.isEmpty then some (after alternatives or p) else none
  | .and :: r => readOperand stack ⟨alternatives, some p⟩ r
  | .or :: r => readOperand stack ⟨some (after alternatives or p), none⟩ r
  | .closeGroup :: r =>
    match stack with
    | outer :: stack =>
      readOperator stack outer.alternatives
        (after outer.conjunction and (after alternatives or p)) r
    | [] => none
  | _ => none

end

/-- The formula that symbols are by the precedence of SQL. -/
def read (ss : List Symbol) : Option Formula := readOperand [] {} ss

/-- Conditions, each after a mark. -/
def eachAfter (mark : Symbol) : List Condition → List Symbol
  | [] => []
  | c :: cs => mark :: .condition c :: eachAfter mark cs

/-- The formula of a clause. -/
def ofTokens? (ts : List Token) : Option Formula := (Symbol.readAll ts).bind read

variable {stack : List Level} {alternatives : Option Formula}

/-- Further conditions join the conjunction. -/
theorem readOperator_and {p : Formula} {cs : List Condition} {r : List Symbol} :
    readOperator stack alternatives p (eachAfter .and cs ++ r) =
      readOperator stack alternatives (p.andAll cs) r := by
  induction cs generalizing p with
  | nil => rfl
  | cons c cs ih =>
    show readOperator stack alternatives (p.and (test c)) (eachAfter .and cs ++ r) = _
    rw [ih]
    rfl

/-- Further alternatives join those of the group, and the group the conjunction outside. -/
theorem readOperator_or {outer : Level} {p : Formula} {cs : List Condition} {r : List Symbol} :
    readOperator (outer :: stack) alternatives p (eachAfter .or cs ++ .closeGroup :: r) =
      readOperator stack outer.alternatives
        (after outer.conjunction and ((after alternatives or p).orAny cs)) r := by
  induction cs generalizing alternatives p with
  | nil => rfl
  | cons c cs ih =>
    show readOperator (outer :: stack) (some (after alternatives or p)) (test c)
      (eachAfter .or cs ++ .closeGroup :: r) = _
    rw [ih]
    rfl

end Formula

/-! ### Filters

A filter is written as one conjunction, the last part of it a group of alternatives. The parentheses
are what keeps the `OR`s of the group from taking in the conditions before it. -/

namespace Filter

/-- Conditions with a mark between them. -/
def marked (mark : Symbol) : List Condition → List Symbol
  | [] => []
  | c :: cs => .condition c :: Formula.eachAfter mark cs

def symbols (f : Filter) : List Symbol :=
  marked .and f.all
    ++ (match f.any with
      | [] => []
      | _ :: _ => (if f.all.isEmpty then [] else [.and])
        ++ .openGroup :: marked .or f.any ++ [.closeGroup])

/-- The formula of a filter: its conditions from the left, and then the group of its alternatives.
-/
def formula? (f : Filter) : Option Formula :=
  match f.all, f.any with
  | [], [] => none
  | c :: cs, [] => some ((Formula.test c).andAll cs)
  | [], d :: ds => some ((Formula.test d).orAny ds)
  | c :: cs, d :: ds => some (((Formula.test c).andAll cs).and ((Formula.test d).orAny ds))

/-- The symbols of a filter are read as its formula. -/
theorem read_symbols (f : Filter) : Formula.read f.symbols = f.formula? := by
  -- Whether there are conditions before the group decides whether an `AND` stands before it.
  obtain ⟨all, any⟩ := f
  cases all with
  | nil =>
    cases any with
    | nil => rfl
    | cons d ds =>
      show Formula.readOperator [{}] none (.test d)
        (Formula.eachAfter .or ds ++ [.closeGroup]) = _
      rw [Formula.readOperator_or]
      rfl
  | cons c cs =>
    cases any with
    | nil =>
      show Formula.readOperator [] none (.test c)
        (Formula.eachAfter .and cs ++ []) = _
      rw [Formula.readOperator_and]
      rfl
    | cons d ds =>
      show Formula.readOperator [] none (.test c)
        (Formula.eachAfter .and cs ++ .and :: .openGroup :: .condition d ::
          (Formula.eachAfter .or ds ++ [.closeGroup])) = _
      rw [Formula.readOperator_and]
      show Formula.readOperator [⟨none, some ((Formula.test c).andAll cs)⟩] none (.test d)
        (Formula.eachAfter .or ds ++ [.closeGroup]) = _
      rw [Formula.readOperator_or]
      rfl

/-- Conditions with a word between them, and further parts after them. -/
theorem separated_conditions {w : Word} (mark : Symbol) (hmark : mark.tokens = [.word w])
    (c : Condition) (cs : List Condition) (parts : List (List Token)) :
    separated w ((c :: cs).map Condition.tokens ++ parts) =
      (marked mark (c :: cs)).flatMap Symbol.tokens ++
        (if parts.isEmpty then [] else .word w :: separated w parts) := by
  induction cs generalizing c with
  | nil =>
    cases parts with
    | nil => simp [separated, marked, Formula.eachAfter, Symbol.tokens]
    | cons p ps => simp [separated, marked, Formula.eachAfter, Symbol.tokens]
  | cons d ds ih =>
    have hstep : separated w ((c :: d :: ds).map Condition.tokens ++ parts) =
        c.tokens ++ .word w :: separated w ((d :: ds).map Condition.tokens ++ parts) := rfl
    rw [hstep, ih d]
    simp only [marked, Formula.eachAfter, List.flatMap_cons, hmark]
    simp [Symbol.tokens]

/-- The tokens of a filter are those of its symbols. -/
theorem tokens_symbols (f : Filter) : f.tokens = f.symbols.flatMap Symbol.tokens := by
  obtain ⟨all, any⟩ := f
  -- the group of the alternatives, on its own
  have hgroup : ∀ d ds, separated .or ((d :: ds).map Condition.tokens) =
      (marked .or (d :: ds)).flatMap Symbol.tokens := fun d ds => by
    have h := separated_conditions .or rfl d ds []
    rwa [List.append_nil, List.isEmpty_nil, if_pos rfl, List.append_nil] at h
  cases all with
  | nil =>
    cases any with
    | nil => rfl
    | cons d ds =>
      show .word .openGroup :: separated .or ((d :: ds).map Condition.tokens)
        ++ [.word .closeGroup] = _
      rw [hgroup]
      simp [symbols, marked, Symbol.tokens]
  | cons c cs =>
    rw [tokens, parts, separated_conditions .and rfl]
    cases any with
    | nil => simp [symbols]
    | cons d ds =>
      show _ ++ .word .and :: (.word .openGroup :: separated .or ((d :: ds).map Condition.tokens)
        ++ [.word .closeGroup]) = _
      rw [hgroup]
      simp [symbols, Symbol.tokens]

/-- The tokens of a filter are read as its formula. -/
theorem read_tokens (f : Filter) : Formula.ofTokens? f.tokens = f.formula? := by
  rw [Formula.ofTokens?, tokens_symbols, Symbol.readAll_tokens]
  exact f.read_symbols

/-- Without parentheses, `a OR b AND c` is `a OR (b AND c)`. -/
example : Formula.ofTokens?
    [.name "a", .word .isNull, .word .or, .name "b", .word .isNull, .word .and, .name "c",
      .word .isNull] =
    some (.or (.test (.isNull ⟨none, "a"⟩))
      (.and (.test (.isNull ⟨none, "b"⟩)) (.test (.isNull ⟨none, "c"⟩)))) := by
  cbv

/-- Whether a clause with these conditions holds, given the value of each condition. -/
def meets (truth : Condition → Truth) (f : Filter) : Bool :=
  match Formula.ofTokens? f.tokens with
  | some p => p.eval truth = .yes
  | none => false

/-- A clause with a condition holds where each of its conditions does and, if there are
alternatives, one of them. -/
theorem meets_iff {truth : Condition → Truth} {f : Filter} (h : f.all ≠ []) :
    f.meets truth = true ↔
      (∀ c ∈ f.all, truth c = .yes) ∧ (f.any = [] ∨ ∃ c ∈ f.any, truth c = .yes) := by
  rw [meets, read_tokens]
  obtain ⟨_ | ⟨c, cs⟩, any⟩ := f
  · exact absurd rfl h
  cases any with
  | nil =>
    show decide (((Formula.test c).andAll cs).eval truth = .yes) = true ↔ _
    rw [decide_eq_true_iff, Formula.eval_andAll, Formula.eval]
    simp
  | cons d ds =>
    show decide ((((Formula.test c).andAll cs).and ((Formula.test d).orAny ds)).eval truth = .yes) =
      true ↔ _
    rw [decide_eq_true_iff, Formula.eval, Truth.and_eq_yes, Formula.eval_andAll, Formula.eval_orAny,
      Formula.eval, Formula.eval]
    simp

end Filter
end TenantGate.Sql
