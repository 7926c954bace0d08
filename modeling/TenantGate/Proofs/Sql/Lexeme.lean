import Mathlib.Data.List.Infix
import TenantGate.Proofs.Sql.Numbering
import TenantGate.Proofs.Sql.Scan
/-!
# Lexemes of a statement

The text of a statement is meant as a row of lexemes: fixed words, quoted names, and placeholders
with the types they are cast to. `Phrased` tokens are those whose text is also scanned in this way,
because a name is always followed by a word, and whose names, pairs of names and types are of a
given `Vocabulary`:

    scan_textFrom : scan (textFrom n ts) = some ((lexemesFrom n ts).flatMap Lexeme.pieces)

Whatever characters the names are made of, they stay inside their quotes.
-/

namespace TenantGate.Sql

/-! ### Fixed words

No word has a quote in it, and only the dot begins with a dot. That is all the scanner needs to know
of the words. -/

/-- No word has a quote in it, so none begins or ends a name. -/
theorem Word.quote_not_mem (w : Word) : '"' ∉ w.text.toList := by
  cases w <;> decide

theorem Word.text_ne_nil (w : Word) : w.text.toList ≠ [] := by
  cases w <;> decide

/-- A dot is the only word that begins with a dot. -/
theorem Word.head?_ne_dot {w : Word} (h : w ≠ .dot) : w.text.toList.head? ≠ some '.' := by
  cases w with
  | dot => exact absurd rfl h
  | _ => decide

/-! ### Lexemes

A placeholder is a dollar sign, its number and, where the value is cast, two colons and a type. The
type is text from the settings or the catalog; it is scanned on its own (`typePieces`), which is
right wherever its quotes end what they begin. -/

/-- A part of the text of a statement. -/
inductive Lexeme where
  | word (w : Word)
  | name (s : String)
  | placeholder (n : Nat) (castTo : Option String)
  deriving DecidableEq

/-- The lexemes of tokens whose first bound value has number `n`. -/
def lexemesFrom (n : Nat) : List Token → List Lexeme
  | [] => []
  | .word w :: r => .word w :: lexemesFrom n r
  | .name s :: r => .name s :: lexemesFrom n r
  | .bound b :: r => .placeholder n b.castTo :: lexemesFrom (n + 1) r

/-- How the type of a parameter may be written: without quotes, or as a name in a namespace. -/
def IsTypeText (type : String) : Prop := '"' ∉ type.toList ∨ ∃ q s, type = qualifiedName q s

/-- The pieces of a type, scanned on its own. -/
def typePieces (type : String) : List Piece := (scan type.toList).getD []

/-- What a lexeme is scanned as. -/
def Lexeme.pieces : Lexeme → List Piece
  | word w => marks w.text
  | name s => [.name s]
  | placeholder n none => marks ("$" ++ Number.natText n)
  | placeholder n (some type) => marks ("$" ++ Number.natText n ++ "::") ++ typePieces type

/-- A text without quotes is scanned as its characters. -/
theorem scan_plain {type : String} (h : '"' ∉ type.toList) :
    scan type.toList = some (marks type) := by
  have hscan := scan_marks h []
  rw [List.append_nil, scan_nil] at hscan
  simpa using hscan

/-- A name in a namespace is scanned as two names and a dot. -/
theorem scan_pair (q s : String) :
    scan (qualifiedName q s).toList = some [.name q, .mark '.', .name s] := by
  have hrest : ([] : List Char).head? ≠ some '"' := by simp
  have hscan := scan_qualifiedName q s hrest
  rw [List.append_nil, scan_nil] at hscan
  exact hscan

/-- The pieces of a type without quotes are its characters. -/
theorem typePieces_of_not_mem {type : String} (h : '"' ∉ type.toList) :
    typePieces type = marks type := by
  rw [typePieces, scan_plain h]
  rfl

/-- The pieces of a type in a namespace are its two names and the dot. -/
theorem typePieces_qualifiedName (q s : String) :
    typePieces (qualifiedName q s) = [.name q, .mark '.', .name s] := by
  rw [typePieces, scan_pair]
  rfl

/-- The quotes of a type end every name that they begin. -/
def IsClosed (type : String) : Prop := ∃ ps, scan type.toList = some ps

/-- Either way of writing a type leaves no name open. -/
theorem IsTypeText.isClosed {type : String} (h : IsTypeText type) : IsClosed type := by
  rcases h with h | ⟨q, s, rfl⟩
  · exact ⟨_, scan_plain h⟩
  · exact ⟨_, scan_pair q s⟩

/-- A closed type is scanned in front of a rest as it is on its own. -/
theorem scan_type {type : String} (h : IsClosed type) {rest : List Char}
    (hrest : rest.head? ≠ some '"') :
    scan (type.toList ++ rest) = (scan rest).map (typePieces type ++ ·) := by
  obtain ⟨ps, hps⟩ := h
  rw [scan_append hps hrest, typePieces, hps]
  rfl

/-- A number has no quote in it. -/
theorem quote_not_mem_natText (n : Nat) : '"' ∉ (Number.natText n).toList := by
  intro h
  rw [Number.natText, String.toList_ofList] at h
  have hdigit := Nat.isDigit_of_mem_toDigits (by decide) (by decide) h
  exact absurd hdigit (by decide)

/-- A placeholder is scanned as its lexeme, whatever follows but a quote. -/
theorem scan_placeholder (n : Nat) {castTo : Option String}
    (h : ∀ type, castTo = some type → IsClosed type) {rest : List Char}
    (hrest : rest.head? ≠ some '"') :
    scan ((placeholder n castTo).toList ++ rest) =
      (scan rest).map ((Lexeme.placeholder n castTo).pieces ++ ·) := by
  have hnumber := quote_not_mem_natText n
  cases castTo with
  | none =>
    have htext : placeholder n none = "$" ++ Number.natText n := String.append_empty
    rw [htext]
    exact scan_marks (by simp [hnumber]) rest
  | some type =>
    have htext : (placeholder n (some type)).toList ++ rest =
        ("$" ++ Number.natText n ++ "::").toList ++ (type.toList ++ rest) := by
      simp [placeholder]
    rw [htext, scan_marks (by simp [hnumber]), scan_type (h type rfl) hrest]
    simp [Lexeme.pieces, Option.map_map, Function.comp_def]

/-! ### Vocabularies

A vocabulary says which names, pairs and types may occur. Tokens are phrased if they keep to it and
no name or value stands right before another: then the text can be cut at the same places again. -/

/-- What the text of a statement may hold between its fixed words. -/
structure Vocabulary where
  /-- The names. -/
  names : String → Prop
  /-- The names that may stand together with a dot between them. -/
  pairs : String → String → Prop
  /-- The types that a placeholder may be cast to. -/
  types : String → Prop

/-- A lexeme of the vocabulary, with a placeholder for one of `count` parameters. -/
def Vocabulary.Allows (v : Vocabulary) (count : Nat) : Lexeme → Prop
  | .word _ => True
  | .name s => v.names s
  | .placeholder n castTo => 1 ≤ n ∧ n ≤ count ∧ ∀ type, castTo = some type → v.types type

/-- Tokens that begin with a word, if there are any. -/
def Opens (ts : List Token) : Prop := ∀ t, ts.head? = some t → ∃ w, t = .word w

/-- Tokens of the vocabulary in which every name and every value is followed by a word or by
nothing, and a dot stands between two names. -/
inductive Phrased (v : Vocabulary) : List Token → Prop
  | nil : Phrased v []
  | word {w : Word} {ts : List Token} (hw : w ≠ .dot) (h : Phrased v ts) :
      Phrased v (.word w :: ts)
  | name {s : String} {ts : List Token} (hs : v.names s) (hopens : Opens ts) (h : Phrased v ts) :
      Phrased v (.name s :: ts)
  | pair {q s : String} {ts : List Token} (hq : v.names q) (hs : v.names s) (hpair : v.pairs q s)
      (hopens : Opens ts) (h : Phrased v ts) : Phrased v (.name q :: .word .dot :: .name s :: ts)
  | bound {b : Bound} {ts : List Token} (hb : ∀ type, b.castTo = some type → v.types type)
      (hopens : Opens ts) (h : Phrased v ts) : Phrased v (.bound b :: ts)

theorem opens_nil : Opens [] := by
  rintro t ⟨⟩

theorem opens_word (w : Word) (ts : List Token) : Opens (.word w :: ts) := by
  rintro t ⟨⟩
  exact ⟨w, rfl⟩

/-- Two lists that open do so one after the other, also if the first is empty. -/
theorem Opens.append {ts us : List Token} (ht : Opens ts) (hu : Opens us) : Opens (ts ++ us) := by
  cases ts with
  | nil => exact hu
  | cons t ts => exact ht

/-- Tokens with nothing or a word after them are followed by nothing or a word. -/
theorem Opens.cases {ts : List Token} (h : Opens ts) : ts = [] ∨ ∃ w r, ts = .word w :: r := by
  cases ts with
  | nil => exact .inl rfl
  | cons t r =>
    obtain ⟨w, rfl⟩ := h t rfl
    exact .inr ⟨w, r, rfl⟩

variable {v : Vocabulary} {ts us : List Token}

/-- Phrased tokens go on with phrased tokens that open. -/
theorem Phrased.append (ht : Phrased v ts) (hu : Phrased v us) (hopens : Opens us) :
    Phrased v (ts ++ us) := by
  induction ht with
  | nil => exact hu
  | word hw _ ih => exact .word hw ih
  | name hs ho _ ih => exact .name hs (ho.append hopens) ih
  | pair hq hs hpair ho _ ih => exact .pair hq hs hpair (ho.append hopens) ih
  | bound hb ho _ ih => exact .bound hb (ho.append hopens) ih

theorem Phrased.append_word (ht : Phrased v ts) {w : Word} (hw : w ≠ .dot) (hu : Phrased v us) :
    Phrased v (ts ++ .word w :: us) :=
  ht.append (.word hw hu) (opens_word w us)

/-- Parts with a word between them are phrased if each part is. -/
theorem Phrased.separated {w : Word} (hw : w ≠ .dot) {ps : List (List Token)}
    (h : ∀ p ∈ ps, Phrased v p) : Phrased v (separated w ps) :=
  separated_induction .nil (fun _ _ hp hts => hp.append_word hw hts) h

/-! ### Scanning

The induction is on how the tokens are phrased. A name is scanned as one piece unless a quote
follows it, and none does. -/

/-- No quote stands where a word or the end does. -/
theorem Opens.head?_ne_quote (h : Opens ts) (n : Nat) :
    (textFrom n ts).toList.head? ≠ some '"' := by
  rcases h.cases with rfl | ⟨w, r, rfl⟩
  · simp
  · intro hhead
    have htext : (textFrom n (.word w :: r)).toList = w.text.toList ++ (textFrom n r).toList := by
      simp
    obtain ⟨c, cs, hw⟩ := List.exists_cons_of_ne_nil w.text_ne_nil
    rw [htext, hw] at hhead
    cases hhead
    exact w.quote_not_mem (by simp [hw])

/-- Phrased tokens are scanned as the lexemes that they are meant as. -/
theorem Phrased.scan_textFrom (h : Phrased v ts) (htypes : ∀ type, v.types type → IsClosed type)
    (n : Nat) :
    scan (textFrom n ts).toList = some ((lexemesFrom n ts).flatMap Lexeme.pieces) := by
  induction h generalizing n with
  | nil => simp [lexemesFrom]
  | word hw h ih =>
    rw [textFrom_word, String.toList_append, scan_marks (Word.quote_not_mem _), ih]
    rfl
  | name hs hopens h ih =>
    rw [textFrom_name, String.toList_append, scan_quoteName _ (hopens.head?_ne_quote n), ih]
    rfl
  | @pair q s ts hq hs hpair hopens h ih =>
    -- the dot is the one word that a name may stand before
    have htext : (textFrom n (.name q :: .word .dot :: .name s :: ts)).toList =
        (qualifiedName q s).toList ++ (textFrom n ts).toList := by
      simp [qualifiedName, Word.text]
    rw [htext, scan_qualifiedName q s (hopens.head?_ne_quote n), ih]
    rfl
  | bound hb hopens h ih =>
    rw [textFrom_bound, String.toList_append,
      scan_placeholder n (fun type htype => htypes type (hb type htype))
        (hopens.head?_ne_quote (n + 1)), ih]
    rfl

/-- The lexemes of phrased tokens are of the vocabulary. -/
theorem Phrased.allows (h : Phrased v ts) {n count : Nat} (hn : 1 ≤ n)
    (hcount : n + (boundValues ts).length ≤ count + 1) :
    ∀ l ∈ lexemesFrom n ts, v.Allows count l := by
  -- The number of the next placeholder is `n`; `hcount` says that the values still to come do not
  -- lead beyond `count`.
  induction h generalizing n with
  | nil => simp [lexemesFrom]
  | word hw h ih =>
    intro l hl
    rcases List.mem_cons.1 hl with rfl | hl
    · trivial
    · exact ih hn hcount l hl
  | name hs hopens h ih =>
    intro l hl
    rcases List.mem_cons.1 hl with rfl | hl
    · exact hs
    · exact ih hn hcount l hl
  | pair hq hs hpair hopens h ih =>
    intro l hl
    rcases List.mem_cons.1 hl with rfl | hl
    · exact hq
    rcases List.mem_cons.1 hl with rfl | hl
    · trivial
    rcases List.mem_cons.1 hl with rfl | hl
    · exact hs
    · exact ih hn hcount l hl
  | bound hb hopens h ih =>
    rw [boundValues_bound, List.length_cons] at hcount
    intro l hl
    rcases List.mem_cons.1 hl with rfl | hl
    · exact ⟨hn, by omega, hb⟩
    · exact ih (by omega) (by omega) l hl

/-! ### Names with a dot between them

In the scanned text a pair can only come from a pair of the tokens, or from a type: nowhere else
does a dot stand right after a name. Each lemma moves the search for a pair over one more lexeme. -/

/-- The pieces that a pair of names is scanned as. -/
abbrev pairPieces (q s : String) : List Piece := [.name q, .mark '.', .name s]

/-- No pair begins among single characters. -/
theorem infix_of_infix_marks {q s t : String} {r : List Piece}
    (h : pairPieces q s <:+: marks t ++ r) : pairPieces q s <:+: r := by
  unfold marks at h
  generalize t.toList = cs at h
  induction cs with
  | nil => exact h
  | cons c cs ih =>
    rcases List.infix_cons_iff.1 h with hprefix | h
    · cases (List.cons_prefix_cons.1 hprefix).1
    · exact ih h

/-- A pair that begins with a name goes on with a dot. -/
theorem infix_name_cases {q s x : String} {r : List Piece} (h : pairPieces q s <:+: .name x :: r) :
    (q = x ∧ [.mark '.', .name s] <+: r) ∨ pairPieces q s <:+: r := by
  rcases List.infix_cons_iff.1 h with hprefix | h
  · obtain ⟨heq, hrest⟩ := List.cons_prefix_cons.1 hprefix
    cases heq
    exact .inl ⟨rfl, hrest⟩
  · exact .inr h

/-- Where a word or the end is, no dot is. -/
theorem Phrased.not_dot_prefix (h : Phrased v ts) (hopens : Opens ts) {n : Nat} {s : String} :
    ¬ [.mark '.', .name s] <+: (lexemesFrom n ts).flatMap Lexeme.pieces := by
  intro hprefix
  rcases hopens.cases with rfl | ⟨w, r, rfl⟩
  · simp [lexemesFrom] at hprefix
  · cases h with
    | word hw h =>
      obtain ⟨c, cs, hchars⟩ := List.exists_cons_of_ne_nil w.text_ne_nil
      have hpieces : (lexemesFrom n (.word w :: r)).flatMap Lexeme.pieces =
          .mark c :: (cs.map .mark ++ (lexemesFrom n r).flatMap Lexeme.pieces) := by
        simp [lexemesFrom, Lexeme.pieces, marks, hchars]
      rw [hpieces] at hprefix
      cases (List.cons_prefix_cons.1 hprefix).1
      exact Word.head?_ne_dot hw (by rw [hchars]; rfl)

/-- After a name comes no pair that begins with it. -/
theorem Phrased.infix_of_infix_name (h : Phrased v ts) (hopens : Opens ts) {n : Nat}
    {q s x : String}
    (hin : pairPieces q s <:+: .name x :: (lexemesFrom n ts).flatMap Lexeme.pieces) :
    pairPieces q s <:+: (lexemesFrom n ts).flatMap Lexeme.pieces := by
  rcases infix_name_cases hin with ⟨-, hdot⟩ | hin
  · exact absurd hdot (h.not_dot_prefix hopens)
  · exact hin

/-- A pair where one begins is that one, or it comes later: none begins with the second name. -/
theorem Phrased.infix_pair_cases (h : Phrased v ts) (hopens : Opens ts) {n : Nat}
    {q s q' s' : String}
    (hin : pairPieces q s <:+:
      .name q' :: .mark '.' :: .name s' :: (lexemesFrom n ts).flatMap Lexeme.pieces) :
    (q = q' ∧ s = s') ∨ pairPieces q s <:+: (lexemesFrom n ts).flatMap Lexeme.pieces := by
  rcases infix_name_cases hin with ⟨rfl, hdot⟩ | hin
  · cases (List.cons_prefix_cons.1 (List.cons_prefix_cons.1 hdot).2).1
    exact .inl ⟨rfl, rfl⟩
  · have hin' : pairPieces q s <:+: marks "." ++ .name s' ::
        (lexemesFrom n ts).flatMap Lexeme.pieces := hin
    exact .inr (h.infix_of_infix_name hopens (infix_of_infix_marks hin'))

/-- A pair in the text of phrased tokens is one of the vocabulary, or a type of it. -/
theorem Phrased.pair_of_infix (h : Phrased v ts) (htypes : ∀ type, v.types type → IsTypeText type)
    {n : Nat} {q s : String}
    (hin : pairPieces q s <:+: (lexemesFrom n ts).flatMap Lexeme.pieces) :
    v.pairs q s ∨ v.types (qualifiedName q s) := by
  induction h generalizing n with
  | nil => simp [lexemesFrom] at hin
  | word hw h ih => exact ih (infix_of_infix_marks hin)
  | name hs hopens h ih => exact ih (h.infix_of_infix_name hopens hin)
  | @pair q' s' ts hq hs hpair hopens h ih =>
    rcases h.infix_pair_cases hopens hin with ⟨rfl, rfl⟩ | hin
    · exact .inl hpair
    · exact ih hin
  | @bound b ts hb hopens h ih =>
    obtain ⟨value, _ | type⟩ := b
    · exact ih (infix_of_infix_marks hin)
    · have hpieces : (lexemesFrom n (.bound ⟨value, some type⟩ :: ts)).flatMap Lexeme.pieces =
          marks ("$" ++ Number.natText n ++ "::") ++ (typePieces type ++
            (lexemesFrom (n + 1) ts).flatMap Lexeme.pieces) := by
        simp [lexemesFrom, Lexeme.pieces]
      rw [hpieces] at hin
      have hin := infix_of_infix_marks hin
      -- a type without quotes is single characters, and one with quotes is a pair itself
      rcases htypes type (hb type rfl) with hplain | ⟨q', s', rfl⟩
      · rw [typePieces_of_not_mem hplain] at hin
        exact ih (infix_of_infix_marks hin)
      · rw [typePieces_qualifiedName] at hin
        rcases h.infix_pair_cases hopens hin with ⟨rfl, rfl⟩ | hin
        · exact .inr (hb _ rfl)
        · exact ih hin

/-! ### Statements

What is shown of phrased tokens is said of the statement that has them. -/

/-- The text of the statement is scanned as lexemes of the vocabulary, and two names stand with a
dot between them only where the vocabulary has them so, or as a type of it. -/
def Statement.IsWithin (s : Statement) (v : Vocabulary) : Prop :=
  ∃ lexemes : List Lexeme,
    scan s.text.toList = some (lexemes.flatMap Lexeme.pieces) ∧
    (∀ l ∈ lexemes, v.Allows s.parameters.length l) ∧
    ∀ q x, pairPieces q x <:+: lexemes.flatMap Lexeme.pieces →
      v.pairs q x ∨ v.types (qualifiedName q x)

/-- A statement whose tokens are phrased is within the vocabulary. -/
theorem Statement.isWithin_of_phrased {s : Statement} (h : Phrased v s.tokens)
    (htypes : ∀ type, v.types type → IsTypeText type) : s.IsWithin v :=
  ⟨lexemesFrom 1 s.tokens, h.scan_textFrom (fun type htype => (htypes type htype).isClosed) 1,
    h.allows (Nat.le_refl 1) (by rw [parameters]; omega), fun _ _ hin => h.pair_of_infix htypes hin⟩

end TenantGate.Sql
