import TenantGate.Sql.Text
/-!
# Scanning quoted names

The server reads a quoted name from one double quote to the next, where a quote that is written
twice stands for one. `scan` cuts a text into pieces by that rule, names and single characters
outside them, and fails where a name does not end.

What is read as a name is that name as statements quote it:

    readName_eq_some_iff : readName cs = some (s, rest) ↔
      cs = doubleQuotes s ++ '"' :: rest ∧ rest.head? ≠ some '"'

since a quote at the beginning of `rest` would be taken for a part of the name.
-/

namespace TenantGate.Sql

/-- The name up to the quote that ends it, and what follows that quote. -/
def readName : List Char → Option (List Char × List Char)
  | [] => none
  | '"' :: '"' :: r => (readName r).map fun (s, rest) => ('"' :: s, rest)
  | '"' :: r => some ([], r)
  | c :: r => (readName r).map fun (s, rest) => (c :: s, rest)

/-! ### Names

The two directions of `readName_eq_some_iff`. What is needed of it later, that the rest is shorter
and that more text may follow, comes from the equivalence and not from the recursion again. -/

/-- Any character but a quote is read as itself. -/
theorem readName_cons {c : Char} (hc : c ≠ '"') (cs : List Char) :
    readName (c :: cs) = (readName cs).map fun (s, rest) => (c :: s, rest) := by
  rw [readName]
  · rintro r heq -
    exact hc heq
  · exact hc

/-- A quote that is not doubled ends the name. -/
theorem readName_end {rest : List Char} (h : rest.head? ≠ some '"') :
    readName ('"' :: rest) = some ([], rest) := by
  rw [readName]
  rintro r rfl
  exact h rfl

/-- A quoted name is read back, and what follows it is left. -/
theorem readName_doubleQuotes (s : List Char) {rest : List Char} (h : rest.head? ≠ some '"') :
    readName (doubleQuotes s ++ '"' :: rest) = some (s, rest) := by
  induction s with
  | nil => exact readName_end h
  | cons c s ih =>
    rw [doubleQuotes]
    split
    · next hc =>
      -- a quote in the name stands twice, and two quotes do not end it
      show readName ('"' :: '"' :: (doubleQuotes s ++ '"' :: rest)) = _
      rw [readName, ih, hc]
      rfl
    · next hc =>
      rw [List.cons_append, readName_cons hc, ih]
      rfl

/-- What is read as a name is that name as it stands between quotes. -/
theorem eq_of_readName {cs s rest : List Char} (h : readName cs = some (s, rest)) :
    cs = doubleQuotes s ++ '"' :: rest ∧ rest.head? ≠ some '"' := by
  induction cs using readName.induct generalizing s rest with
  | case1 => cases h
  | case2 r ih =>
    -- a doubled quote stands for one, and reading goes on
    rw [readName] at h
    obtain ⟨⟨s', rest'⟩, hr, heq⟩ := Option.map_eq_some_iff.1 h
    cases heq
    obtain ⟨rfl, hrest⟩ := ih hr
    exact ⟨rfl, hrest⟩
  | case3 r hnot =>
    -- a quote after which no other one stands ends the name
    rw [readName] at h
    · cases h
      refine ⟨rfl, fun hhead => ?_⟩
      obtain ⟨r', rfl⟩ := List.head?_eq_some_iff.1 hhead
      exact hnot r' rfl
    · exact hnot
  | case4 c r _ hc ih =>
    rw [readName_cons hc] at h
    obtain ⟨⟨s', rest'⟩, hr, heq⟩ := Option.map_eq_some_iff.1 h
    cases heq
    obtain ⟨rfl, hrest⟩ := ih hr
    rw [doubleQuotes, if_neg hc]
    exact ⟨rfl, hrest⟩

/-- A name and a rest are read from a text exactly if it is the name with its quotes doubled, the
quote that ends it, and a rest that does not begin with one. -/
theorem readName_eq_some_iff {cs s rest : List Char} :
    readName cs = some (s, rest) ↔ cs = doubleQuotes s ++ '"' :: rest ∧ rest.head? ≠ some '"' := by
  constructor
  · exact eq_of_readName
  · rintro ⟨rfl, hrest⟩
    exact readName_doubleQuotes s hrest

/-- At least the quote at the end is taken. -/
theorem length_readName {cs s rest : List Char} (h : readName cs = some (s, rest)) :
    rest.length < cs.length := by
  obtain ⟨rfl, -⟩ := readName_eq_some_iff.1 h
  rw [List.length_append, List.length_cons]
  omega

/-- A name that ends is read as before if more follows, unless that begins with a quote. -/
theorem readName_append {cs s rest more : List Char} (h : readName cs = some (s, rest))
    (hmore : more.head? ≠ some '"') : readName (cs ++ more) = some (s, rest ++ more) := by
  obtain ⟨rfl, hrest⟩ := readName_eq_some_iff.1 h
  rw [readName_eq_some_iff, List.append_assoc, List.cons_append]
  refine ⟨rfl, ?_⟩
  cases rest with
  | nil => exact hmore
  | cons c rest => exact hrest

/-! ### Pieces

The scanner takes names as wholes and any other character alone. -/

/-- A piece of a text: a character outside names, or a name that was quoted. -/
inductive Piece where
  | mark (c : Char)
  | name (s : String)
  deriving DecidableEq

/-- The pieces of a text; `none` if a name does not end. -/
def scan (cs : List Char) : Option (List Piece) :=
  match cs with
  | [] => some []
  | c :: r =>
    if c = '"' then
      match h : readName r with
      | none => none
      | some (s, rest) =>
        have : rest.length < r.length := length_readName h
        (scan rest).map (.name (String.ofList s) :: ·)
    else (scan r).map (.mark c :: ·)
termination_by cs.length

@[simp] theorem scan_nil : scan [] = some [] := by rw [scan]

/-- At a quote, a name is read. -/
theorem scan_quote {r s rest : List Char} (h : readName r = some (s, rest)) :
    scan ('"' :: r) = (scan rest).map (.name (String.ofList s) :: ·) := by
  rw [scan, if_pos rfl]
  split
  · next hnone =>
    rw [h] at hnone
    cases hnone
  · next s' rest' hsome =>
    rw [h] at hsome
    cases hsome
    rfl

theorem scan_mark {c : Char} (hc : c ≠ '"') (r : List Char) :
    scan (c :: r) = (scan r).map (.mark c :: ·) := by
  rw [scan, if_neg hc]

/-- A text that is scanned is scanned as before if more follows, unless that begins with a quote.
-/
theorem scan_append {cs more : List Char} {ps : List Piece} (h : scan cs = some ps)
    (hmore : more.head? ≠ some '"') : scan (cs ++ more) = (scan more).map (ps ++ ·) := by
  induction cs using scan.induct generalizing ps with
  | case1 =>
    rw [scan_nil] at h
    cases h
    simp
  | case2 r hnone =>
    -- a name that does not end is not scanned
    rw [scan, if_pos rfl] at h
    split at h
    · cases h
    · next s rest hsome =>
      rw [hnone] at hsome
      cases hsome
  | case3 r name rest hread hlt ih =>
    rw [scan_quote hread] at h
    obtain ⟨ps', hps', rfl⟩ := Option.map_eq_some_iff.1 h
    rw [List.cons_append, scan_quote (readName_append hread hmore), ih hps', Option.map_map]
    rfl
  | case4 c r hc ih =>
    rw [scan_mark hc] at h
    obtain ⟨ps', hps', rfl⟩ := Option.map_eq_some_iff.1 h
    rw [List.cons_append, scan_mark hc, ih hps', Option.map_map]
    rfl

/-- The characters of a text, each as a piece. -/
def marks (s : String) : List Piece := s.toList.map .mark

/-- A text without quotes is a row of single characters. -/
theorem scan_marks {s : String} (h : '"' ∉ s.toList) (rest : List Char) :
    scan (s.toList ++ rest) = (scan rest).map (marks s ++ ·) := by
  unfold marks
  generalize s.toList = cs at h
  induction cs with
  | nil => simp
  | cons c cs ih =>
    have hc : c ≠ '"' := fun heq => h (heq ▸ List.mem_cons_self)
    rw [List.cons_append, scan_mark hc, ih fun hcs => h (List.mem_cons_of_mem _ hcs)]
    simp [Option.map_map, Function.comp_def]

theorem toList_quoteName_append (s : String) (rest : List Char) :
    (quoteName s).toList ++ rest = '"' :: (doubleQuotes s.toList ++ '"' :: rest) := by
  simp [quoteName, quoteChars]

/-- A quoted name is one piece, unless a quote follows. -/
theorem scan_quoteName (s : String) {rest : List Char} (h : rest.head? ≠ some '"') :
    scan ((quoteName s).toList ++ rest) = (scan rest).map (.name s :: ·) := by
  rw [toList_quoteName_append, scan_quote (readName_doubleQuotes s.toList h), String.ofList_toList]

/-- A qualified name is two names with a dot between them, unless a quote follows. -/
theorem scan_qualifiedName (q s : String) {rest : List Char} (h : rest.head? ≠ some '"') :
    scan ((qualifiedName q s).toList ++ rest) =
      (scan rest).map ([.name q, .mark '.', .name s] ++ ·) := by
  have hdot : scan ('.' :: ((quoteName s).toList ++ rest)) =
      (scan ((quoteName s).toList ++ rest)).map (.mark '.' :: ·) :=
    scan_mark (by decide) _
  have hchars : (qualifiedName q s).toList ++ rest =
      (quoteName q).toList ++ '.' :: ((quoteName s).toList ++ rest) := by
    simp [qualifiedName]
  rw [hchars, scan_quoteName q (by simp), hdot, scan_quoteName s h]
  simp [Option.map_map, Function.comp_def]

end TenantGate.Sql
