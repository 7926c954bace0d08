import TenantGate.Proofs.Query.Reading
import TenantGate.Proofs.Query.Segments
/-!
# Arrows within arguments

The cutter of segments counts every quote, while the reader of arguments lets a quote open a text
only at the start of an argument. In the text of a call an arrow can stand within an argument only
(`exists_arrowIn`), and whether a reader that counts every quote is inside quotes there depends on
the quotes in the bare arguments before it (`isQuotedAfter_of_arrowIn`): the two readers disagree
about an arrow exactly if an odd number of those came before.
-/

namespace TenantGate.Query

open Text

/-! ### Arrows in a text of two parts

An arrow is two characters long, so in a text of two parts it can lie across the border. What the
parts have at the border decides whether it does. -/

section Arrow

variable {x y u v : List Char}

/-- An arrow that cannot begin in the first part is in the second. -/
theorem arrow_right (hx : '-' ∉ x) (h : x ++ y = u ++ arrow ++ v) :
    ∃ u', u = x ++ u' ∧ y = u' ++ arrow ++ v := by
  rw [List.append_assoc] at h
  obtain ⟨u', hu, hy⟩ | ⟨c, rfl, hc⟩ := List.append_eq_append_iff.1 h
  · exact ⟨u', hu, by rw [hy, List.append_assoc]⟩
  · cases c with
    | nil => exact ⟨[], by simp, by simpa using hc.symm⟩
    | cons ch c =>
      -- the arrow would begin in the first part
      obtain ⟨rfl, -⟩ := List.cons.inj hc
      simp at hx

/-- An arrow that cannot end at the start of the second part is in one of the parts. -/
theorem arrow_cases (hy : y.head? ≠ some '>') (h : x ++ y = u ++ arrow ++ v) :
    (∃ v', x = u ++ arrow ++ v' ∧ v = v' ++ y) ∨ ∃ u', u = x ++ u' ∧ y = u' ++ arrow ++ v := by
  obtain ⟨c, hc, rfl⟩ | ⟨v', hx, hv⟩ := List.append_eq_append_iff.1 h
  · obtain ⟨b, rfl, hb⟩ | ⟨u', hu, rfl⟩ := List.append_eq_append_iff.1 hc
    · -- The parts meet before the arrow, within it or after it.
      obtain ⟨rfl, rfl⟩ | ⟨b', rfl, hb'⟩ := List.append_eq_cons_iff.1 hb.symm
      · exact .inr ⟨[], by simp, rfl⟩
      obtain ⟨rfl, rfl⟩ | ⟨b'', rfl, hb''⟩ := List.append_eq_cons_iff.1 hb'.symm
      · exact absurd rfl hy
      obtain ⟨rfl, rfl⟩ := List.append_eq_nil_iff.1 hb''.symm
      exact .inl ⟨[], by simp [arrow], rfl⟩
    · exact .inr ⟨u', hu, rfl⟩
  · exact .inl ⟨v', hx, hv⟩

/-- An arrow that cannot end in the second part is in the first. -/
theorem arrow_left (hy : '-' ∉ y) (hhead : y.head? ≠ some '>') (h : x ++ y = u ++ arrow ++ v) :
    ∃ v', x = u ++ arrow ++ v' ∧ v = v' ++ y := by
  obtain hleft | ⟨u', -, rfl⟩ := arrow_cases hhead h
  · exact hleft
  · simp [arrow] at hy

end Arrow

/-! ### Arrows in a call

Outside its arguments a call has letters, blanks, commas and parentheses alone. So the parts before
and after the arguments are crossed off one by one, and what is left is an argument. -/

/-- The arrow after `u` in a call stands within the argument `a`, after the pieces `ps` and after
what is written of `a` in `w`. -/
structure CallText.ArrowIn (c : CallText) (u : List Char) (ps : List Piece) (a : Argument)
    (w : List Char) : Prop where
  piece : ∃ gap qs, c.pieces = ps ++ ⟨a, gap⟩ :: qs
  within : ∃ w', a.written = w ++ arrow ++ w'
  place : u = c.front ++ argText ps ++ w

theorem CallText.ArrowIn.exists_chars {c : CallText} {u w : List Char} {ps : List Piece}
    {a : Argument} (h : c.ArrowIn u ps a w) : ∃ v, c.chars = u ++ arrow ++ v := by
  obtain ⟨gap, qs, hpieces⟩ := h.piece
  obtain ⟨w', hw⟩ := h.within
  refine ⟨w' ++ (gap ++ argText qs) ++ c.back, ?_⟩
  rw [CallText.chars, hpieces, argText_append, argText_cons, h.place, hw]
  simp only [List.append_assoc]

/-- An arrow in the text of an argument list stands within one of the arguments. -/
theorem IsArgumentList.exists_arrow {ps : List Piece} {u v : List Char} (h : IsArgumentList ps)
    (harrow : argText ps = u ++ arrow ++ v) :
    ∃ before a gap later w w', ps = before ++ ⟨a, gap⟩ :: later ∧ u = argText before ++ w ∧
      a.written = w ++ arrow ++ w' := by
  -- The induction is on the list. The gap after an argument has neither of the two characters, so
  -- the arrow is within the argument or in what follows the gap.
  induction h generalizing u with
  | nil => simp [arrow] at harrow
  | @last a gap ha hne hgap =>
    rw [argText_cons, argText_nil, List.append_nil] at harrow
    obtain ⟨w', hw', -⟩ := arrow_left (hgap.not_mem (by decide))
      (fun h => hgap.not_mem (by decide) (List.mem_of_mem_head? h)) harrow
    exact ⟨[], a, gap, [], u, w', rfl, rfl, hw'⟩
  | @cons a before after ps ha hbefore hempty hafter hps ih =>
    have hgap {ch : Char} (hblank : isBlank ch = false) (hcomma : ch ≠ ',') :
        ch ∉ before ++ ',' :: after := by
      rw [List.mem_append, List.mem_cons, not_or, not_or]
      exact ⟨hbefore.not_mem hblank, hcomma, hafter.not_mem hblank⟩
    have hhead : (before ++ ',' :: after ++ argText ps).head? ≠ some '>' := by
      intro hhead
      rw [List.head?_append_of_ne_nil _ (by simp)] at hhead
      exact hgap (by decide) (by decide) (List.mem_of_mem_head? hhead)
    rw [argText_cons] at harrow
    obtain ⟨w', hw', -⟩ | ⟨u', rfl, hrest⟩ := arrow_cases hhead harrow
    · exact ⟨[], a, _, ps, u, w', rfl, rfl, hw'⟩
    · obtain ⟨u'', rfl, hps'⟩ := arrow_right (hgap (by decide) (by decide)) hrest
      obtain ⟨before', a', gap', later, w, w', rfl, rfl, hw⟩ := ih hps'
      exact ⟨_ :: before', a', gap', later, w, w', rfl, by simp, hw⟩

/-- Before the arguments there are letters, blanks and one parenthesis. -/
theorem CallText.IsProper.not_mem_front {c : CallText} (hc : c.IsProper) {ch : Char}
    (hblank : isBlank ch = false) (halpha : ch.isAlpha = false) (hopen : ch ≠ '(') :
    ch ∉ c.front := by
  have hname : ch ∉ c.name := by
    intro hmem
    rw [hc.name ch hmem] at halpha
    exact Bool.noConfusion halpha
  simp [CallText.front, hc.lead.not_mem hblank, hname, hc.gap.not_mem hblank, hopen,
    hc.opening.not_mem hblank]

theorem CallText.IsProper.not_mem_back {c : CallText} (hc : c.IsProper) {ch : Char}
    (hblank : isBlank ch = false) (hclose : ch ≠ ')') : ch ∉ c.back := by
  simp [CallText.back, hc.closing.not_mem hblank, hclose, hc.tail.not_mem hblank]

/-- An arrow in the text of a call stands within one of the arguments. -/
theorem CallText.IsProper.exists_arrowIn {c : CallText} {u v : List Char} (hc : c.IsProper)
    (h : c.chars = u ++ arrow ++ v) : ∃ ps a w, c.ArrowIn u ps a w := by
  have hback {ch : Char} (hblank : isBlank ch = false) (hclose : ch ≠ ')') : ch ∉ c.back :=
    hc.not_mem_back hblank hclose
  obtain ⟨v', hleft, -⟩ := arrow_left (hback (by decide) (by decide))
    (fun h => hback (by decide) (by decide) (List.mem_of_mem_head? h)) h
  obtain ⟨u', hu, hargs⟩ :=
    arrow_right (hc.not_mem_front (by decide) (by decide) (by decide)) hleft
  obtain ⟨ps, a, gap, qs, w, w', hpieces, rfl, hw⟩ := hc.pieces.exists_arrow hargs
  exact ⟨ps, a, w, ⟨gap, qs, hpieces⟩, ⟨w', hw⟩, by rw [hu, List.append_assoc]⟩

/-! ### Quotes in a call

A quoted argument has two quotes, of which one opens and the other closes, and a bare one has as
many as it likes. A reader that counts every quote is misled by the bare arguments only. -/

/-- What of an argument stands outside the quotes that the reader of arguments sees. -/
def Argument.outside : Argument → List Char
  | .quoted _ => []
  | .bare token => token

/-- The bare arguments of a list. -/
def bareText (ps : List Piece) : List Char := ps.flatMap (·.arg.outside)

@[simp] theorem bareText_cons (p : Piece) (ps : List Piece) :
    bareText (p :: ps) = p.arg.outside ++ bareText ps :=
  List.flatMap_cons

@[simp] theorem bareText_append (ps qs : List Piece) :
    bareText (ps ++ qs) = bareText ps ++ bareText qs :=
  List.flatMap_append

/-- A text without quotes changes nothing. -/
theorem isQuotedAfter_of_not_mem {q : Bool} {cs : List Char} (h : '\'' ∉ cs) :
    isQuotedAfter q cs = q := by
  induction cs with
  | nil => rfl
  | cons c cs ih =>
    rw [List.mem_cons, not_or] at h
    show isQuotedAfter (quotedAfter q c) cs = q
    rw [quotedAfter, if_neg (Ne.symm h.1), ih h.2]

/-- After an opening quote and a text without quotes. -/
theorem isQuotedAfter_opening {q : Bool} {cs : List Char} (h : '\'' ∉ cs) :
    isQuotedAfter q ('\'' :: cs) = !q := by
  show isQuotedAfter (!q) cs = !q
  exact isQuotedAfter_of_not_mem h

/-- A quoted argument closes what it opens. -/
theorem Argument.IsProper.isQuotedAfter_written {q : Bool} {a : Argument} (ha : a.IsProper) :
    isQuotedAfter q a.written = isQuotedAfter q a.outside := by
  cases a with
  | quoted s =>
    show isQuotedAfter q ('\'' :: s ++ ['\'']) = q
    rw [isQuotedAfter_append, isQuotedAfter_opening ha]
    exact Bool.not_not q
  | bare token => rfl

/-- No gap holds a quote. -/
theorem IsArgumentList.proper {ps : List Piece} (h : IsArgumentList ps) :
    ∀ p ∈ ps, p.arg.IsProper ∧ '\'' ∉ p.gap := by
  induction h with
  | nil => simp
  | last ha _ hgap => simpa using ⟨ha, hgap.not_mem (by decide)⟩
  | cons ha hbefore _ hafter _ ih =>
    refine List.forall_mem_cons.2 ⟨⟨ha, ?_⟩, ih⟩
    simp [hbefore.not_mem (c := '\'') (by decide), hafter.not_mem (c := '\'') (by decide)]

/-- A reader that counts every quote is inside quotes after arguments if it is after the bare ones
alone. -/
theorem isQuotedAfter_argText {q : Bool} {ps : List Piece}
    (h : ∀ p ∈ ps, p.arg.IsProper ∧ '\'' ∉ p.gap) :
    isQuotedAfter q (argText ps) = isQuotedAfter q (bareText ps) := by
  induction ps generalizing q with
  | nil => rfl
  | cons p ps ih =>
    rw [List.forall_mem_cons] at h
    obtain ⟨⟨harg, hgap⟩, hps⟩ := h
    rw [argText_cons, isQuotedAfter_append, isQuotedAfter_append, isQuotedAfter_of_not_mem hgap,
      harg.isQuotedAfter_written, ih hps, ← isQuotedAfter_append]
    rfl

namespace CallText.IsProper

variable {c : CallText} {u w : List Char} {ps : List Piece} {a : Argument}

theorem isQuotedAfter_front (hc : c.IsProper) {q : Bool} : isQuotedAfter q c.front = q :=
  isQuotedAfter_of_not_mem (hc.not_mem_front (by decide) (by decide) (by decide))

/-- Whether a reader that counts every quote is inside quotes at an arrow of a call. -/
theorem isQuotedAfter_of_arrowIn (hc : c.IsProper) (h : c.ArrowIn u ps a w) :
    isQuotedAfter false u = isQuotedAfter false (bareText ps ++ w) := by
  obtain ⟨gap, qs, hpieces⟩ := h.piece
  have hps : ∀ p ∈ ps, p.arg.IsProper ∧ '\'' ∉ p.gap := by
    intro p hp
    exact hc.pieces.proper p (by rw [hpieces]; exact List.mem_append_left _ hp)
  rw [h.place, isQuotedAfter_append, isQuotedAfter_append, hc.isQuotedAfter_front,
    isQuotedAfter_argText hps, ← isQuotedAfter_append]

/-- After a whole call a reader that counts every quote is inside quotes if the bare arguments
leave it there. -/
theorem isQuotedAfter_chars (hc : c.IsProper) :
    isQuotedAfter false c.chars = isQuotedAfter false (bareText c.pieces) := by
  rw [CallText.chars, isQuotedAfter_append, isQuotedAfter_append, hc.isQuotedAfter_front,
    isQuotedAfter_argText hc.pieces.proper]
  exact isQuotedAfter_of_not_mem (hc.not_mem_back (by decide) (by decide))

end CallText.IsProper

/-- A quote that a reader sees before an arrow in a quoted argument is the opening one. -/
theorem isQuotedAfter_within_quoted {s w w' : List Char} (hs : '\'' ∉ s)
    (h : (Argument.quoted s).written = w ++ arrow ++ w') {q : Bool} : isQuotedAfter q w = !q := by
  cases w with
  | nil => cases h
  | cons c w =>
    obtain ⟨rfl, hw⟩ := List.cons.inj h
    obtain ⟨v, rfl, -⟩ := arrow_left (by decide) (by decide) hw
    exact isQuotedAfter_opening (fun hmem => hs (by simp [hmem]))

/-- A call with neither quotes nor arrowheads in its bare arguments is a segment, and closes the
quotes that it opens. -/
theorem CallText.IsProper.isSegment {c : CallText} (hc : c.IsProper)
    (hbare : ∀ ch ∈ bareText c.pieces, ch ≠ '\'' ∧ ch ≠ '>') :
    IsSegment false c.chars ∧ isQuotedAfter false c.chars = false := by
  constructor
  · intro u v hchars
    obtain ⟨ps, a, w, hin⟩ := hc.exists_arrowIn hchars
    obtain ⟨gap, qs, hpieces⟩ := hin.piece
    obtain ⟨w', hw⟩ := hin.within
    have ha : a.IsProper := (hc.pieces.proper ⟨a, gap⟩ (by simp [hpieces])).1
    rw [hpieces, bareText_append, bareText_cons] at hbare
    have hps : '\'' ∉ bareText ps := fun hmem => (hbare _ (List.mem_append_left _ hmem)).1 rfl
    cases a with
    | quoted t =>
      rw [hc.isQuotedAfter_of_arrowIn hin, isQuotedAfter_append, isQuotedAfter_of_not_mem hps,
        isQuotedAfter_within_quoted ha hw]
      rfl
    | bare t =>
      have hhead : '>' ∈ t := by
        rw [show t = w ++ arrow ++ w' from hw]
        simp [arrow]
      exact absurd rfl (hbare _ (List.mem_append_right _ (List.mem_append_left _ hhead))).2
  · rw [hc.isQuotedAfter_chars]
    exact isQuotedAfter_of_not_mem fun hmem => (hbare _ hmem).1 rfl

/-! ### Arrows of an expression

The two readers meet here. A segment is what the one leaves in one piece, and a call what the other
makes of it. -/

/-- The arrow after `before` stands within the argument `a` of a call of the expression `cs`, after
the pieces `ps` and after what is written of `a` in `w`. -/
def ArrowWithin (cs before : List Char) (ps : List Piece) (a : Argument) (w : List Char) : Prop :=
  ∃ l u r, ∃ c : CallText, segments before = l ++ [u] ∧ segments cs = l ++ c.chars :: r ∧
    c.IsProper ∧ c.ArrowIn u ps a w

/-- In a segment, an arrow within a bare argument comes after an odd number of quotes in this and
the bare arguments before it. -/
theorem odd_of_arrowIn_bare {cs u w token : List Char} {c : CallText} {ps : List Piece}
    (hc : c.IsProper) (hmem : c.chars ∈ segments cs) (hin : c.ArrowIn u ps (.bare token) w) :
    Odd ((bareText ps ++ w).count '\'') := by
  obtain ⟨v, hv⟩ := hin.exists_chars
  rw [← isQuotedAfter_iff_odd, ← hc.isQuotedAfter_of_arrowIn hin]
  exact isSegment_of_mem_segments hmem u v hv

/-- In a segment, an arrow within a quoted argument comes after an even number of quotes in the bare
arguments before it. -/
theorem even_of_arrowIn_quoted {cs u w t : List Char} {c : CallText} {ps : List Piece}
    (hc : c.IsProper) (hmem : c.chars ∈ segments cs) (hin : c.ArrowIn u ps (.quoted t) w) :
    Even ((bareText ps).count '\'') := by
  obtain ⟨v, hv⟩ := hin.exists_chars
  obtain ⟨w', hw⟩ := hin.within
  obtain ⟨gap, qs, hpieces⟩ := hin.piece
  have ht : '\'' ∉ t := (hc.pieces.proper ⟨.quoted t, gap⟩ (by simp [hpieces])).1
  have hquoted := isSegment_of_mem_segments hmem u v hv
  rw [hc.isQuotedAfter_of_arrowIn hin, isQuotedAfter_append, isQuotedAfter_within_quoted ht hw,
    Bool.not_eq_true'] at hquoted
  exact isQuotedAfter_eq_false_iff_even.1 hquoted

/-- Of an expression that is read, every arrow separates two segments, or it stands within an
argument: a quoted one after an even number of quotes in bare arguments of the call, or a bare one
after an odd number of them. So where the bare arguments hold no quotes, every arrow that is not
quoted separates two segments, and no bare argument holds an arrow. -/
theorem Expression.arrow_of_read {s : String} {e : Expression} (h : Expression.read s = .ok e) :
    (∀ before after, trimChars s.toList = before ++ arrow ++ after →
      segments (trimChars s.toList) = segments before ++ segments after ∨
        ∃ ps a w, ArrowWithin (trimChars s.toList) before ps a w ∧
          ((∃ t, a = .quoted t ∧ Even ((bareText ps).count '\'')) ∨
            ∃ t, a = .bare t ∧ Odd ((bareText ps ++ w).count '\''))) ∧
      ∀ c : CallText, c.IsProper → c.chars ∈ segments (trimChars s.toList) →
        ∀ u ps t w, c.ArrowIn u ps (.bare t) w → Odd ((bareText ps ++ w).count '\'') := by
  refine ⟨?_, fun c hc hmem u ps t w hin => odd_of_arrowIn_bare hc hmem hin⟩
  intro before after hs
  -- An arrow that is not cut is within a segment, and that segment is a call, for it was read and
  -- is not blank.
  by_cases hquoted : isQuotedAfter false before = false
  · left
    rw [hs]
    exact cutArrows_append_arrow hquoted
  right
  obtain ⟨l, u, v, r, hbefore, -, hcut⟩ :=
    cutArrows_append_quoted (by simpa using hquoted) after
  have hsegs : segments (trimChars s.toList) = l ++ (u ++ arrow ++ v) :: r := by rw [hs]; exact hcut
  have hmem : u ++ arrow ++ v ∈ segments (trimChars s.toList) := by simp [hsegs]
  obtain ⟨c, hc, hchars⟩ : ∃ c : CallText, c.IsProper ∧ c.chars = u ++ arrow ++ v := by
    refine (Expression.blank_or_call h _ hmem).resolve_left (fun hblank => ?_)
    exact hblank.not_mem (c := '-') (by decide) (by simp [arrow])
  rw [← hchars] at hsegs hmem
  obtain ⟨ps, a, w, hin⟩ := hc.exists_arrowIn hchars
  refine ⟨ps, a, w, ⟨l, u, r, c, hbefore, hsegs, hc, hin⟩, ?_⟩
  cases a with
  | quoted t => exact .inl ⟨t, rfl, even_of_arrowIn_quoted hc hmem hin⟩
  | bare t => exact .inr ⟨t, rfl, odd_of_arrowIn_bare hc hmem hin⟩

/-- An arrow within a quoted argument. -/
theorem Expression.arrow_of_read_quoted :
    let cs := "table('menu')->where('menu_name','a->b')".toList
    let before := "table('menu')->where('menu_name','a".toList
    let after := "b')".toList
    cs = before ++ arrow ++ after ∧
      ∃ e, Expression.read (String.ofList cs) = .ok e ∧
        (segments (trimChars cs) = segments before ++ segments after ∨
          ∃ ps a w, ArrowWithin (trimChars cs) before ps a w ∧
            ((∃ t, a = .quoted t ∧ Even ((bareText ps).count '\'')) ∨
              ∃ t, a = .bare t ∧ Odd ((bareText ps ++ w).count '\''))) := by
  intro cs before after
  let e : Expression :=
    { base := ⟨"menu", "menu"⟩
      wheres := [⟨⟨none, "menu_name", "menu_name"⟩, .compare .equal, .text "a->b"⟩] }
  have hread : Expression.read (String.ofList cs) = .ok e := by decide +kernel
  exact ⟨rfl, e, hread, (Expression.arrow_of_read hread).1 before after (by decide +kernel)⟩

/-- A quote within a bare argument keeps the next arrow from being cut: the call after it becomes a
part of the argument, and is not made. -/
theorem Expression.arrow_in_bare_argument :
    let cs := "table('menu')->where(name,it's)->take(5)".toList
    let before := "table('menu')->where(name,it's)".toList
    let value := "it's)->take(5"
    Expression.read (String.ofList cs) =
        .ok { base := ⟨"menu", "menu"⟩
              wheres := [⟨⟨none, "name", "name"⟩, .compare .equal, .text value⟩] } ∧
      cs = before ++ arrow ++ "take(5)".toList ∧
      segments cs ≠ segments before ++ segments "take(5)".toList ∧
      ∃ ps w, ArrowWithin cs before ps (.bare value.toList) w := by
  intro cs before value
  refine ⟨by decide +kernel, rfl, by decide +kernel, ?_⟩
  let name : Piece := ⟨.bare "name".toList, ",".toList⟩
  let call : CallText := { name := "where".toList, pieces := [name, ⟨.bare value.toList, []⟩] }
  have hpieces : IsArgumentList call.pieces :=
    .comma (by decide +kernel) (.last (by decide +kernel) (by decide +kernel) .nil)
  have hcall : call.IsProper :=
    { lead := .nil, name_ne := by decide, name := List.all_eq_true.1 (by decide), gap := .nil
      opening := .nil, pieces := hpieces, trimmed := by decide +kernel, closing := .nil
      tail := .nil }
  exact ⟨[name], "it's)".toList, ["table('menu')".toList], "where(name,it's)".toList, [], call,
    by decide +kernel, by decide +kernel, hcall, ⟨[], [], rfl⟩,
    ⟨"take(5".toList, by decide +kernel⟩, by decide +kernel⟩

end TenantGate.Query
