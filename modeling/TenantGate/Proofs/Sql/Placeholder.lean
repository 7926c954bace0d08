import TenantGate.Proofs.Sql.Layout
/-!
# Placeholders in the text

Outside quoted names, a dollar sign and the digits after it are a placeholder. `placeholders` finds
them in a text that has been scanned. In the text of phrased tokens they count the bound values:

    Phrased.placeholders_eq :
      placeholders ((lexemesFrom n ts).flatMap Lexeme.pieces) =
        (List.range' n (boundValues ts).length).map Number.natText

This holds whatever the names are, as long as the types of parameters have no dollar sign outside
quoted names (`IsPlainType`). A digit of the number is never taken from what follows it, because
that is a word, or the colons before a type, or nothing.
-/

namespace TenantGate.Sql

/-! ### Finding placeholders

A number goes on as long as there are digits. So a number that is written out is read in full only
where no digit follows it. -/

/-- The digits that pieces begin with. -/
def leadingDigits : List Piece → List Char
  | .mark c :: r => if c.isDigit then c :: leadingDigits r else []
  | _ => []

/-- The numbers of the placeholders among pieces, as they are written. -/
def placeholders : List Piece → List String
  | [] => []
  | .mark c :: r =>
    if c = '$' then String.ofList (leadingDigits r) :: placeholders r else placeholders r
  | .name _ :: r => placeholders r

/-- Pieces that do not go on a number. -/
def EndsNumber (ps : List Piece) : Prop := ∀ c, ps.head? = some (.mark c) → c.isDigit = false

/-- No number begins where no digit stands. -/
theorem leadingDigits_eq_nil {ps : List Piece} (h : EndsNumber ps) : leadingDigits ps = [] := by
  cases ps with
  | nil => rfl
  | cons p ps =>
    cases p with
    | name s => rfl
    | mark c =>
      have hc : c.isDigit = false := h c rfl
      simp [leadingDigits, hc]

/-- A number is read to its end. -/
theorem leadingDigits_append {digits : List Char} (hdigits : ∀ c ∈ digits, c.isDigit = true)
    {ps : List Piece} (hps : EndsNumber ps) :
    leadingDigits (digits.map .mark ++ ps) = digits := by
  induction digits with
  | nil => exact leadingDigits_eq_nil hps
  | cons c digits ih =>
    obtain ⟨hc, hrest⟩ := List.forall_mem_cons.1 hdigits
    rw [List.map_cons, List.cons_append, leadingDigits, if_pos hc, ih hrest]

/-- Pieces without a dollar sign hold no placeholder. -/
theorem placeholders_append {ps : List Piece} (h : .mark '$' ∉ ps) (qs : List Piece) :
    placeholders (ps ++ qs) = placeholders qs := by
  induction ps with
  | nil => rfl
  | cons p ps ih =>
    have hrest := ih fun hmem => h (List.mem_cons_of_mem _ hmem)
    cases p with
    | name s => exact hrest
    | mark c =>
      have hc : c ≠ '$' := by
        rintro rfl
        exact h List.mem_cons_self
      rw [List.cons_append, placeholders, if_neg hc, hrest]

/-! ### Words, numbers and types

A dollar sign stands in no word and in no number, and no word begins with a digit. A type is the one
part of a text that the settings choose freely; hence the condition on types. -/

theorem Word.dollar_not_mem (w : Word) : '$' ∉ w.text.toList := by
  cases w <;> decide

theorem Word.head?_isDigit (w : Word) : w.text.toList.head?.any Char.isDigit = false := by
  cases w <;> decide

/-- A number is written with digits only. -/
theorem isDigit_of_mem_natText {n : Nat} : ∀ c ∈ (Number.natText n).toList, c.isDigit = true := by
  intro c hc
  rw [Number.natText, String.toList_ofList] at hc
  exact Nat.isDigit_of_mem_toDigits (by decide) (by decide) hc

theorem mark_mem_marks {s : String} {c : Char} : Piece.mark c ∈ marks s ↔ c ∈ s.toList := by
  simp [marks]

/-- A type in which a dollar sign stands only inside quoted names. -/
def IsPlainType (type : String) : Prop := ∃ ps, scan type.toList = some ps ∧ .mark '$' ∉ ps

theorem IsPlainType.isClosed {type : String} (h : IsPlainType type) : IsClosed type := by
  obtain ⟨ps, hps, -⟩ := h
  exact ⟨ps, hps⟩

/-- The pieces of a plain type hold no dollar sign. -/
theorem IsPlainType.dollar_not_mem {type : String} (h : IsPlainType type) :
    .mark '$' ∉ typePieces type := by
  obtain ⟨ps, hps, hdollar⟩ := h
  rw [typePieces, hps]
  exact hdollar

/-- The pieces of a placeholder hold its own number and no other. -/
theorem placeholders_pieces (n : Nat) {castTo : Option String}
    (h : ∀ type, castTo = some type → IsPlainType type) {ps : List Piece} (hps : EndsNumber ps) :
    placeholders ((Lexeme.placeholder n castTo).pieces ++ ps) =
      Number.natText n :: placeholders ps := by
  have hdigits : .mark '$' ∉ marks (Number.natText n) := by
    rw [mark_mem_marks]
    intro hmem
    exact absurd (isDigit_of_mem_natText _ hmem) (by decide)
  -- a dollar sign, the number, and pieces with which no number goes on
  have hread : ∀ qs, EndsNumber qs →
      placeholders (.mark '$' :: (marks (Number.natText n) ++ qs)) =
        Number.natText n :: placeholders qs := by
    intro qs hqs
    rw [placeholders, if_pos rfl, placeholders_append hdigits, marks,
      leadingDigits_append isDigit_of_mem_natText hqs, String.ofList_toList]
  -- After the number stands whatever follows the placeholder, or the colons before its type.
  cases castTo with
  | none =>
    have hpieces : (Lexeme.placeholder n none).pieces ++ ps =
        .mark '$' :: (marks (Number.natText n) ++ ps) := by
      simp [Lexeme.pieces, marks]
    rw [hpieces, hread ps hps]
  | some type =>
    have hpieces : (Lexeme.placeholder n (some type)).pieces ++ ps =
        .mark '$' :: (marks (Number.natText n) ++ (marks "::" ++ (typePieces type ++ ps))) := by
      simp [Lexeme.pieces, marks]
    have hcolons : EndsNumber (marks "::" ++ (typePieces type ++ ps)) := by
      rintro c ⟨⟩
      rfl
    have hdollar := (h type rfl).dollar_not_mem
    rw [hpieces, hread _ hcolons, placeholders_append (by decide), placeholders_append hdollar]

/-! ### Phrased tokens

The induction is on how the tokens are phrased. Only a bound value adds a placeholder, and it is
followed by a word or by nothing. -/

variable {v : Vocabulary} {ts : List Token}

/-- A number does not go on where a word or the end is. -/
theorem Opens.endsNumber (h : Opens ts) (n : Nat) :
    EndsNumber ((lexemesFrom n ts).flatMap Lexeme.pieces) := by
  rcases h.cases with rfl | ⟨w, r, rfl⟩
  · rintro c ⟨⟩
  · intro c hc
    obtain ⟨d, cs, hchars⟩ := List.exists_cons_of_ne_nil w.text_ne_nil
    have hdigit := w.head?_isDigit
    rw [hchars] at hdigit
    have hpieces : (lexemesFrom n (.word w :: r)).flatMap Lexeme.pieces =
        .mark d :: (cs.map .mark ++ (lexemesFrom n r).flatMap Lexeme.pieces) := by
      simp [lexemesFrom, Lexeme.pieces, marks, hchars]
    rw [hpieces] at hc
    cases hc
    exact hdigit

/-- The placeholders of phrased tokens count their bound values. -/
theorem Phrased.placeholders_eq (h : Phrased v ts)
    (htypes : ∀ type, v.types type → IsPlainType type) (n : Nat) :
    placeholders ((lexemesFrom n ts).flatMap Lexeme.pieces) =
      (List.range' n (boundValues ts).length).map Number.natText := by
  induction h generalizing n with
  | nil => rfl
  | @word w ts hw h ih =>
    have hdollar : .mark '$' ∉ marks w.text := by
      rw [mark_mem_marks]
      exact w.dollar_not_mem
    rw [lexemesFrom, List.flatMap_cons, Lexeme.pieces, placeholders_append hdollar, ih]
    rfl
  | name hs hopens h ih => exact ih n
  | @pair q s ts hq hs hpair hopens h ih =>
    have hdollar : Piece.mark '$' ∉ pairPieces q s := by simp
    have hpieces : (lexemesFrom n (.name q :: .word .dot :: .name s :: ts)).flatMap Lexeme.pieces =
        pairPieces q s ++ (lexemesFrom n ts).flatMap Lexeme.pieces := by
      rfl
    rw [hpieces, placeholders_append hdollar, ih]
    rfl
  | @bound b ts hb hopens h ih =>
    rw [lexemesFrom, List.flatMap_cons,
      placeholders_pieces n (fun type htype => htypes type (hb type htype))
        (hopens.endsNumber (n + 1)), ih, boundValues_bound, List.length_cons, List.range'_succ,
      List.map_cons]

/-! ### Statements

The text of a whole statement is numbered from one. -/

/-- Read from left to right, the placeholders of the text are `$1`, `$2`, … up to the number of the
parameters. -/
def Statement.IsNumbered (s : Statement) : Prop :=
  ∃ pieces, scan s.text.toList = some pieces ∧
    placeholders pieces = (List.range' 1 s.parameters.length).map Number.natText

/-- The placeholders of a statement that fits a vocabulary of plain types count its parameters. -/
theorem Statement.Fits.isNumbered {s : Statement} (h : s.Fits v)
    (htypes : ∀ type, v.types type → IsPlainType type) : s.IsNumbered :=
  ⟨_, h.phrased.scan_textFrom (fun type htype => (htypes type htype).isClosed) 1,
    h.phrased.placeholders_eq htypes 1⟩

end TenantGate.Sql
