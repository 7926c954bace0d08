import TenantGate.Proofs.Text
import TenantGate.Query.Segment
/-!
# How calls are written

The reader of arguments keeps their values only. Here the text of an argument list is a list of
pieces, each an argument, quoted or bare, and the gap after it, and the text of a call is a name
and an argument list with blanks in six places. The reader accepts exactly these texts, and gives
the values of the pieces:

    readArgs_argText : IsArgumentList ps → readArgs (argText ps) = some (argValues ps)
    readCall_eq_some_iff :
      readCall (trimChars cs) = some call ↔ ∃ c, c.IsProper ∧ c.chars = cs ∧ c.call = call
-/

namespace TenantGate.Query

open Text

/-! ### Arguments

The text of an argument list is kept as pieces, which can be taken apart where the reader takes them
apart. A piece holds more than its argument: the gap after it has to be found again too. -/

/-- An argument as it is written. -/
inductive Argument where
  | quoted (s : List Char)
  | bare (token : List Char)

namespace Argument

def written : Argument → List Char
  | quoted s => '\'' :: (s ++ ['\''])
  | bare token => token

/-- What is read; an empty bare argument is passed over. -/
def value? : Argument → Option Literal
  | quoted s => some (.text (String.ofList s))
  | bare token => if token.isEmpty then none else some (bareLiteral token)

/-- A quoted argument ends at its first quote. A bare one does not begin with a quote, and has no
comma and no blanks at its ends. -/
def IsProper : Argument → Prop
  | quoted s => '\'' ∉ s
  | bare token => token.head? ≠ some '\'' ∧ ',' ∉ token ∧ trimChars token = token

instance : DecidablePred IsProper
  | quoted s => inferInstanceAs (Decidable ('\'' ∉ s))
  | bare token =>
    inferInstanceAs (Decidable (token.head? ≠ some '\'' ∧ ',' ∉ token ∧ trimChars token = token))

end Argument

/-- An argument and what stands between it and the next one. -/
structure Piece where
  arg : Argument
  gap : List Char

namespace Piece

def chars (p : Piece) : List Char := p.arg.written ++ p.gap

end Piece

/-- The text of an argument list. -/
def argText (ps : List Piece) : List Char := ps.flatMap Piece.chars

/-- The arguments of a list. -/
def argValues (ps : List Piece) : List Literal := ps.filterMap (·.arg.value?)

@[simp] theorem argText_nil : argText [] = [] := rfl

@[simp] theorem argText_cons (p : Piece) (ps : List Piece) :
    argText (p :: ps) = p.arg.written ++ (p.gap ++ argText ps) := by
  rw [argText, List.flatMap_cons, Piece.chars, List.append_assoc]
  rfl

theorem argText_append (ps qs : List Piece) : argText (ps ++ qs) = argText ps ++ argText qs :=
  List.flatMap_append

@[simp] theorem argValues_nil : argValues [] = [] := rfl

/-- An empty bare argument has no value, and any other argument has one. -/
theorem argValues_cons (p : Piece) (ps : List Piece) :
    argValues (p :: ps) = p.arg.value?.toList ++ argValues ps := by
  unfold argValues
  rw [List.filterMap_cons]
  cases p.arg.value? <;> rfl

/-- Pieces with a comma, perhaps among blanks, after each of them but the last. -/
inductive IsArgumentList : List Piece → Prop
  | nil : IsArgumentList []
  | last {a : Argument} {gap : List Char} (ha : a.IsProper) (hne : a.written ≠ [])
      (hgap : IsBlankText gap) : IsArgumentList [⟨a, gap⟩]
  | cons {a : Argument} {before after : List Char} {ps : List Piece} (ha : a.IsProper)
      (hbefore : IsBlankText before) (hempty : a.written = [] → before = [])
      (hafter : IsBlankText after) (hps : IsArgumentList ps) :
      IsArgumentList (⟨a, before ++ ',' :: after⟩ :: ps)

/-- One more argument in front, with a comma and no blanks after it. -/
theorem IsArgumentList.comma {a : Argument} {ps : List Piece} (ha : a.IsProper)
    (hps : IsArgumentList ps) : IsArgumentList (⟨a, [',']⟩ :: ps) :=
  @IsArgumentList.cons a [] [] ps ha .nil (fun _ => rfl) .nil hps

/-! ### Reading arguments

The reader takes one argument at a time, a quoted one up to its second quote and a bare one up to a
comma. What it does in either case is said by one equation for each. -/

/-- Without the separator there is no cut. -/
theorem cutAt_of_not_mem {sep : Char} {cs : List Char} (h : sep ∉ cs) :
    cutAt sep cs = (cs, []) := by
  induction cs with
  | nil => rfl
  | cons c cs ih =>
    rw [List.mem_cons, not_or] at h
    rw [cutAt, if_neg (Ne.symm h.1), ih h.2]

/-- The cut is at the first separator. -/
theorem cutAt_append {sep : Char} {a : List Char} (h : sep ∉ a) (b : List Char) :
    cutAt sep (a ++ sep :: b) = (a, b) := by
  induction a with
  | nil => rw [List.nil_append, cutAt, if_pos rfl]
  | cons c a ih =>
    rw [List.mem_cons, not_or] at h
    rw [List.cons_append, cutAt, if_neg (Ne.symm h.1), ih h.2]

section ReadArgs

variable {cs r t s : List Char}

theorem readArgs_nil : readArgs [] = some [] := by rw [readArgs]

/-- A quote that is not closed is refused. -/
theorem readArgs_unclosed (h : '\'' ∉ cs) : readArgs ('\'' :: cs) = none := by
  rw [readArgs]
  split
  next => rfl
  next hcut =>
    obtain ⟨rfl, -⟩ := splitOnceChars_eq_some_iff.1 hcut
    simp at h

/-- After a closed quote the argument is the last one, a comma follows it, or nothing is read. -/
theorem readArgs_quoted (hs : '\'' ∉ s) (r : List Char) :
    readArgs ('\'' :: (s ++ '\'' :: r)) =
      match trimStart r with
      | [] => some [.text (String.ofList s)]
      | c :: t =>
        if c = ',' then (readArgs (trimStart t)).map (.text (String.ofList s) :: ·) else none := by
  have hcut := splitOnceChars_append hs r
  rw [readArgs]
  split
  next h => rw [hcut] at h; cases h
  next h =>
    rw [hcut] at h
    obtain ⟨rfl, rfl⟩ := Prod.mk.inj (Option.some.inj h)
    split
    next h' => simp only [h']
    next h' => simp only [h']

/-- A bare argument reaches up to the next comma or to the end, and is trimmed. -/
theorem readArgs_bare (hne : cs ≠ []) (hquote : cs.head? ≠ some '\'') :
    readArgs cs =
      (readArgs (trimStart (cutAt ',' cs).2)).map
        (((Argument.bare (trimChars (cutAt ',' cs).1)).value?.toList) ++ ·) := by
  cases cs with
  | nil => exact absurd rfl hne
  | cons c cs =>
    rw [readArgs.eq_3 _ _ (by rintro rfl; exact hquote rfl)]
    simp only [Argument.value?]
    split
    next => simp
    next => rfl

/-! #### One argument

The last argument is read by itself, and one with a comma behind it is read and leaves the rest. -/

theorem readArgs_last {a : Argument} {gap : List Char} (ha : a.IsProper) (hne : a.written ≠ [])
    (hgap : IsBlankText gap) : readArgs (a.written ++ gap) = some a.value?.toList := by
  cases a with
  | quoted s =>
    show readArgs ('\'' :: (s ++ ['\''] ++ gap)) = _
    rw [List.append_assoc]
    refine (readArgs_quoted ha gap).trans ?_
    rw [trimStart_eq_nil_iff.2 hgap]
    rfl
  | bare token =>
    obtain ⟨hquote, hcomma, htrim⟩ := ha
    have hcut : cutAt ',' (token ++ gap) = (token ++ gap, []) :=
      cutAt_of_not_mem (not_mem_append_blank hcomma hgap (by decide))
    have htoken : trimChars (token ++ gap) = token := trimChars_between .nil hgap htrim
    show readArgs (token ++ gap) = _
    rw [readArgs_bare (by simp [show token ≠ [] from hne]) ?head, hcut, htoken]
    case head => cases token <;> simp_all [Argument.written]
    show (readArgs []).map _ = _
    rw [readArgs_nil, Option.map_some, List.append_nil]

theorem readArgs_comma {a : Argument} {before after rest : List Char} (ha : a.IsProper)
    (hbefore : IsBlankText before) (hempty : a.written = [] → before = [])
    (hafter : IsBlankText after) (hrest : trimStart rest = rest) :
    readArgs (a.written ++ (before ++ ',' :: (after ++ rest))) =
      (readArgs rest).map (a.value?.toList ++ ·) := by
  have htrim : trimStart (after ++ rest) = rest := by rw [trimStart_blank_append hafter, hrest]
  -- a quoted argument ends before its gap, while the gap of a bare one is trimmed off
  cases a with
  | quoted s =>
    show readArgs ('\'' :: (s ++ ['\''] ++ _)) = _
    rw [List.append_assoc]
    have hcomma : trimStart (before ++ ',' :: (after ++ rest)) = ',' :: (after ++ rest) := by
      rw [trimStart_blank_append hbefore, trimStart_cons_of_not_blank (by decide)]
    refine (readArgs_quoted ha (before ++ ',' :: (after ++ rest))).trans ?_
    rw [hcomma]
    simp only [htrim]
    rfl
  | bare token =>
    obtain ⟨hquote, hcomma, htoken⟩ := ha
    have hcut : cutAt ',' (token ++ (before ++ ',' :: (after ++ rest))) =
        (token ++ before, after ++ rest) := by
      rw [← List.append_assoc]
      exact cutAt_append (not_mem_append_blank hcomma hbefore (by decide)) _
    have htoken' : trimChars (token ++ before) = token := trimChars_between .nil hbefore htoken
    show readArgs (token ++ _) = _
    rw [readArgs_bare (by simp) ?head, hcut, htoken', htrim]
    case head => cases token <;> simp_all [Argument.written]

end ReadArgs

/-! ### Argument lists

Both directions go along the text, from one argument to the next: a list is read argument by
argument, and a text that is read is a list argument by argument. -/

/-- An argument that has a text does not begin with a blank. -/
theorem Argument.IsProper.trimStart_written {a : Argument} (ha : a.IsProper) (rest : List Char)
    (hne : a.written ≠ []) : trimStart (a.written ++ rest) = a.written ++ rest := by
  cases a with
  | quoted s => exact trimStart_cons_of_not_blank (by decide)
  | bare token =>
    cases token with
    | nil => exact absurd rfl hne
    | cons c token =>
      have hstart : trimStart (c :: token) = c :: token := by rw [← ha.2.2, trimStart_trimChars]
      exact trimStart_cons_of_not_blank (not_blank_of_trimStart hstart)

/-- An argument list does not begin with a blank. -/
theorem IsArgumentList.trimStart_argText {ps : List Piece} (h : IsArgumentList ps) :
    trimStart (argText ps) = argText ps := by
  cases h with
  | nil => rfl
  | last ha hne hgap =>
    rw [argText_cons]
    exact ha.trimStart_written _ hne
  | @cons a before after ps ha hbefore hempty hafter hps =>
    rw [argText_cons]
    by_cases hne : a.written = []
    · rw [hne, hempty hne]
      exact trimStart_cons_of_not_blank (by decide)
    · exact ha.trimStart_written _ hne

/-- The reader gives the values of an argument list. -/
theorem readArgs_argText {ps : List Piece} (h : IsArgumentList ps) :
    readArgs (argText ps) = some (argValues ps) := by
  induction h with
  | nil => exact readArgs_nil
  | last ha hne hgap =>
    rw [argText_cons, argValues_cons, argText_nil, argValues_nil, List.append_nil, List.append_nil]
    exact readArgs_last ha hne hgap
  | cons ha hbefore hempty hafter hps ih =>
    rw [argText_cons, argValues_cons, List.append_assoc, List.cons_append,
      readArgs_comma ha hbefore hempty hafter hps.trimStart_argText, ih, Option.map_some]

/-- A text that begins with an argument, the last of its list or one with a comma after it. -/
inductive BeginsWith (a : Argument) : List Char → Prop
  | last {gap : List Char} (hne : a.written ≠ []) (hgap : IsBlankText gap) :
      BeginsWith a (a.written ++ gap)
  | comma {before after rest : List Char} (hbefore : IsBlankText before)
      (hempty : a.written = [] → before = []) (hafter : IsBlankText after)
      (hrest : trimStart rest = rest) :
      BeginsWith a (a.written ++ (before ++ ',' :: (after ++ rest)))

theorem exists_beginsWith_quoted {cs : List Char} {vs : List Literal}
    (h : readArgs ('\'' :: cs) = some vs) :
    ∃ a : Argument, a.IsProper ∧ BeginsWith a ('\'' :: cs) := by
  -- The text has to have a second quote, for otherwise nothing is read.
  obtain hquote | ⟨s, r, rfl, hs⟩ := not_mem_or_exists_append '\'' cs
  · rw [readArgs_unclosed hquote] at h
    cases h
  refine ⟨.quoted s, hs, ?_⟩
  obtain ⟨bs, hbs, hr⟩ := exists_trimStart r
  have hcs : '\'' :: (s ++ '\'' :: r) = (Argument.quoted s).written ++ (bs ++ trimStart r) := by
    rw [← hr]
    simp [Argument.written]
  rw [hcs]
  cases htrim : trimStart r with
  | nil => exact .last (List.cons_ne_nil _ _) (hbs.append .nil)
  | cons c t =>
    by_cases hc : c = ','
    · subst hc
      obtain ⟨after, hafter, ht⟩ := exists_trimStart t
      rw [ht]
      exact .comma hbs (fun h => absurd h (List.cons_ne_nil _ _)) hafter
        (List.dropWhile_idempotent _ _)
    · rw [readArgs_quoted hs, htrim] at h
      simp only [if_neg hc] at h
      cases h

/-- A part of a text from its start, up to a comma or to the end of the text, is a bare argument
when it is trimmed. -/
theorem isProper_bare_trimEnd {cs x : List Char} (hcs : trimStart cs = cs)
    (hquote : cs.head? ≠ some '\'') (hx : x <+: cs) (hcomma : ',' ∉ x) :
    (Argument.bare (trimEnd x)).IsProper := by
  have hprefix : trimEnd x <+: cs := (trimEnd_isPrefix x).trans hx
  refine ⟨?_, fun hmem => hcomma ((trimEnd_isPrefix x).subset hmem),
    trimChars_eq_self (trimStart_of_isPrefix hprefix hcs) (trimEnd_trimEnd x)⟩
  intro hhead
  obtain ⟨rest, rfl⟩ := hprefix
  exact hquote (by rw [List.head?_append, hhead]; rfl)

theorem exists_beginsWith_bare {cs : List Char} (hcs : trimStart cs = cs) (hne : cs ≠ [])
    (hquote : cs.head? ≠ some '\'') : ∃ a : Argument, a.IsProper ∧ BeginsWith a cs := by
  -- no part from the start is all blanks, for the text does not begin with one
  have hblank {x : List Char} (hx : x <+: cs) (hend : trimEnd x = []) : x = [] := by
    rw [← trimStart_of_isPrefix hx hcs]
    obtain ⟨bs, hbs, hx'⟩ := exists_trimEnd x
    rw [trimStart_eq_nil_iff, hx', hend]
    exact hbs
  obtain hcomma | ⟨x, y, rfl, hcomma⟩ := not_mem_or_exists_append ',' cs
  · obtain ⟨gap, hgap, hcs'⟩ := exists_trimEnd cs
    refine ⟨.bare (trimEnd cs), isProper_bare_trimEnd hcs hquote List.prefix_rfl hcomma, ?_⟩
    have hlast : BeginsWith (.bare (trimEnd cs)) (trimEnd cs ++ gap) :=
      .last (fun h => hne (hblank List.prefix_rfl h)) hgap
    rwa [← hcs'] at hlast
  · have hx : x <+: x ++ ',' :: y := ⟨_, rfl⟩
    obtain ⟨before, hbefore, hbefore'⟩ := exists_trimEnd x
    obtain ⟨after, hafter, hafter'⟩ := exists_trimStart y
    refine ⟨.bare (trimEnd x), isProper_bare_trimEnd hcs hquote hx hcomma, ?_⟩
    have hnone : trimEnd x = [] → before = [] := by
      intro hend
      rw [hblank hx hend] at hbefore'
      exact (List.append_eq_nil_iff.1 hbefore'.symm).2
    have hfirst : BeginsWith (.bare (trimEnd x))
        (trimEnd x ++ (before ++ ',' :: (after ++ trimStart y))) :=
      .comma hbefore hnone hafter (List.dropWhile_idempotent _ _)
    rwa [← List.append_assoc, ← hbefore', ← hafter'] at hfirst

/-- What the reader accepts is the text of an argument list. -/
theorem exists_isArgumentList {cs : List Char} {vs : List Literal} (hcs : trimStart cs = cs)
    (h : readArgs cs = some vs) :
    ∃ ps, IsArgumentList ps ∧ argText ps = cs ∧ argValues ps = vs := by
  -- by the length of the text: what follows the first comma is read next, not the tail
  induction hlen : cs.length using Nat.strong_induction_on generalizing cs vs with
  | h n ih =>
  subst hlen
  by_cases hnil : cs = []
  · subst hnil
    rw [readArgs_nil] at h
    exact ⟨[], .nil, rfl, Option.some.inj h⟩
  obtain ⟨a, ha, hbegins⟩ : ∃ a : Argument, a.IsProper ∧ BeginsWith a cs := by
    by_cases hquote : cs.head? = some '\''
    · obtain ⟨cs', rfl⟩ := List.head?_eq_some_iff.1 hquote
      exact exists_beginsWith_quoted h
    · exact exists_beginsWith_bare hcs hnil hquote
  cases hbegins with
  | @last gap hne hgap =>
    rw [readArgs_last ha hne hgap] at h
    refine ⟨[⟨a, gap⟩], .last ha hne hgap, by simp, ?_⟩
    rw [argValues_cons, argValues_nil, List.append_nil]
    exact Option.some.inj h
  | @comma before after rest hbefore hempty hafter hrest =>
    rw [readArgs_comma ha hbefore hempty hafter hrest] at h
    obtain ⟨vs', hvs', rfl⟩ := Option.map_eq_some_iff.1 h
    have hshorter : rest.length < (a.written ++ (before ++ ',' :: (after ++ rest))).length := by
      simp only [List.length_append, List.length_cons]
      omega
    obtain ⟨ps, hps, rfl, rfl⟩ := ih _ hshorter hrest hvs' rfl
    exact ⟨⟨a, before ++ ',' :: after⟩ :: ps, .cons ha hbefore hempty hafter hps, by simp,
      argValues_cons _ _⟩

/-! ### Calls

A call is read from both ends: its name ends at the first opening parenthesis, and its arguments at
the last closing one. -/

/-- A text is split at the last place of a separator. -/
theorem splitLast_eq_some_iff {sep : Char} {cs a b : List Char} :
    splitLast sep cs = some (a, b) ↔ cs = a ++ sep :: b ∧ sep ∉ b := by
  simp only [splitLast, Option.map_eq_some_iff, Prod.exists, Prod.mk.injEq,
    splitOnceChars_eq_some_iff]
  constructor
  · rintro ⟨b', a', ⟨hcs, hsep⟩, rfl, rfl⟩
    have hcs' := congrArg List.reverse hcs
    rw [List.reverse_reverse, List.reverse_append, List.reverse_cons, List.append_assoc] at hcs'
    exact ⟨hcs', by rwa [List.mem_reverse]⟩
  · rintro ⟨rfl, hsep⟩
    refine ⟨b.reverse, a.reverse, ⟨?_, by rwa [List.mem_reverse]⟩, List.reverse_reverse a,
      List.reverse_reverse b⟩
    rw [List.reverse_append, List.reverse_cons, List.append_assoc]
    rfl

/-- A call as it is written: its name, the pieces of its argument list, and blanks around them. -/
structure CallText where
  lead : List Char := []
  name : List Char
  gap : List Char := []
  opening : List Char := []
  pieces : List Piece
  closing : List Char := []
  tail : List Char := []

namespace CallText

/-- What stands before the arguments. -/
def front (c : CallText) : List Char := c.lead ++ c.name ++ c.gap ++ '(' :: c.opening

/-- What stands after the arguments. -/
def back (c : CallText) : List Char := c.closing ++ ')' :: c.tail

def chars (c : CallText) : List Char := c.front ++ argText c.pieces ++ c.back

/-- What is read. -/
def call (c : CallText) : Call := ⟨String.ofList c.name, argValues c.pieces⟩

structure IsProper (c : CallText) : Prop where
  lead : IsBlankText c.lead
  name_ne : c.name ≠ []
  name : ∀ ch ∈ c.name, ch.isAlpha = true
  gap : IsBlankText c.gap
  opening : IsBlankText c.opening
  pieces : IsArgumentList c.pieces
  trimmed : trimChars (argText c.pieces) = argText c.pieces
  closing : IsBlankText c.closing
  tail : IsBlankText c.tail

end CallText

/-- What the reader of calls asks of a segment. -/
theorem readCall_eq_some {segment : List Char} {call : Call} :
    readCall segment = some call ↔
      ∃ n inner tail, segment = n ++ '(' :: (inner ++ ')' :: tail) ∧ '(' ∉ n ∧ ')' ∉ tail ∧
        IsBlankText tail ∧ trimChars n ≠ [] ∧ (∀ ch ∈ trimChars n, ch.isAlpha = true) ∧
        call.method = String.ofList (trimChars n) ∧
        readArgs (trimChars inner) = some call.args := by
  constructor
  · intro h
    simp only [readCall, Option.bind_eq_bind, Option.bind_eq_some_iff, Prod.exists] at h
    obtain ⟨n, rest, hopen, inner, tail, hclose, h⟩ := h
    obtain ⟨rfl, hn⟩ := splitOnceChars_eq_some_iff.1 hopen
    obtain ⟨rfl, htail⟩ := splitLast_eq_some_iff.1 hclose
    rw [Option.ite_none_left_eq_some, Option.ite_none_left_eq_some] at h
    obtain ⟨hshape, hname, h⟩ := h
    obtain ⟨args, hargs, hcall⟩ := Option.bind_eq_some_iff.1 h
    obtain rfl := Option.some.inj hcall
    simp only [not_or, List.isEmpty_iff, Bool.not_eq_true', Bool.not_eq_false,
      List.all_eq_true] at hshape hname
    exact ⟨n, inner, tail, rfl, hn, htail, hshape.2, hname.1, hname.2, rfl, hargs⟩
  · rintro ⟨n, inner, tail, rfl, hn, htail, hblank, hname, halpha, hmethod, hargs⟩
    have hne : n ≠ [] := by
      rintro rfl
      exact hname rfl
    simp only [readCall, Option.bind_eq_bind, splitOnceChars_append hn,
      splitLast_eq_some_iff.2 ⟨rfl, htail⟩, Option.bind_some, hargs]
    rw [if_neg, if_neg]
    · rw [← hmethod]; rfl
    · simpa [hname] using halpha
    · simp [hne, isBlankText_iff.1 hblank]

namespace CallText.IsProper

variable {c : CallText}

/-- The name of a call is one word. -/
theorem trimChars_name (h : c.IsProper) : trimChars c.name = c.name :=
  trimChars_eq_self_of_ends
    (fun _ hch => not_blank_of_isAlpha (h.name _ (List.mem_of_mem_head? hch)))
    (fun _ hch => not_blank_of_isAlpha (h.name _ (List.mem_of_mem_getLast? hch)))

/-- The trimmed text of a call begins with its name and ends with its closing parenthesis. -/
theorem trimChars_chars (h : c.IsProper) :
    trimChars c.chars =
      (c.name ++ c.gap) ++ '(' :: ((c.opening ++ argText c.pieces ++ c.closing) ++ [')']) := by
  have hchars : c.chars = c.lead ++ ((c.name ++ c.gap) ++
      '(' :: ((c.opening ++ argText c.pieces ++ c.closing) ++ [')'])) ++ c.tail := by
    simp [CallText.chars, CallText.front, CallText.back]
  rw [hchars]
  refine trimChars_between h.lead h.tail (trimChars_eq_self_of_ends ?_ ?_)
  · intro ch hch
    rw [List.append_assoc, List.head?_append_of_ne_nil _ h.name_ne] at hch
    exact not_blank_of_isAlpha (h.name _ (List.mem_of_mem_head? hch))
  · intro ch hch
    rw [← List.cons_append, ← List.append_assoc, List.getLast?_concat] at hch
    obtain rfl := Option.some.inj hch
    decide

end CallText.IsProper

/-- A trimmed segment is read as a call exactly if it is the text of one. -/
theorem readCall_eq_some_iff {cs : List Char} {call : Call} :
    readCall (trimChars cs) = some call ↔
      ∃ c : CallText, c.IsProper ∧ c.chars = cs ∧ c.call = call := by
  rw [readCall_eq_some]
  constructor
  · rintro ⟨n, inner, tail, hcs, -, -, htail, hname, halpha, hmethod, hargs⟩
    -- the segment, the name and the argument list are trimmed, each for itself
    obtain ⟨lead, tail', hlead, htail', hcs'⟩ := exists_trimChars cs
    obtain ⟨lead', gap, hlead', hgap, hn⟩ := exists_trimChars n
    obtain ⟨opening, closing, hopening, hclosing, hinner⟩ := exists_trimChars inner
    obtain ⟨ps, hps, htext, hvalues⟩ := exists_isArgumentList (trimStart_trimChars inner) hargs
    refine ⟨⟨lead ++ lead', trimChars n, gap, opening, ps, closing, tail ++ tail'⟩,
      ⟨hlead.append hlead', hname, halpha, hgap, hopening, hps, ?_, hclosing,
        htail.append htail'⟩, ?_, ?_⟩
    · rw [htext, trimChars_trimChars]
    · rw [hcs', hcs]
      conv_rhs => rw [hn, hinner]
      simp [CallText.chars, CallText.front, CallText.back, htext]
    · rw [CallText.call, hvalues, ← hmethod]
  · rintro ⟨c, hc, rfl, rfl⟩
    have hname : trimChars (c.name ++ c.gap) = c.name :=
      trimChars_between .nil hc.gap hc.trimChars_name
    refine ⟨c.name ++ c.gap, c.opening ++ argText c.pieces ++ c.closing, [], hc.trimChars_chars, ?_,
      List.not_mem_nil, .nil, ?_, ?_, ?_, ?_⟩
    · have hopen : '(' ∉ c.name := fun hmem => absurd (hc.name _ hmem) (by decide)
      exact not_mem_append_blank hopen hc.gap (by decide)
    · rw [hname]; exact hc.name_ne
    · rw [hname]; exact hc.name
    · rw [hname]; rfl
    · rw [trimChars_between hc.opening hc.closing hc.trimmed]
      exact readArgs_argText hc.pieces

end TenantGate.Query
