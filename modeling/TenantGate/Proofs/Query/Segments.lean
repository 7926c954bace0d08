import Mathlib.Algebra.Ring.Parity
import TenantGate.Query.Segment
/-!
# Where an expression is cut

An expression is cut at the arrows with an even number of quotes before them. With
`isQuotedAfter` for "an odd number of quotes has been read",

    cutArrows_append_arrow : isQuotedAfter q before = false →
      cutArrows q (before ++ arrow ++ after) = cutArrows q before ++ cutArrows false after

and an arrow with an odd number of quotes before it stays within a segment
(`cutArrows_append_quoted`). Both come from what becomes of any two texts that are put together
(`cutArrows_append`). Nothing is lost by cutting (`intercalate_cutArrows`), and nothing is cut in a
text whose arrows are all quoted (`IsSegment.cutArrows`). A text that is cut goes on outside quotes
after each cut (`exists_rest_of_cutArrows`), so that its segments are characterized by

    segments_eq_iff : segments cs = ps ↔ IsSegmentation ps cs
-/

namespace TenantGate.Query

/-- What stands between two calls. -/
def arrow : List Char := ['-', '>']

/-- Whether a reader is inside quotes after reading a text. -/
def isQuotedAfter (quoted : Bool) (cs : List Char) : Bool := cs.foldl quotedAfter quoted

theorem isQuotedAfter_append (q : Bool) (cs ds : List Char) :
    isQuotedAfter q (cs ++ ds) = isQuotedAfter (isQuotedAfter q cs) ds :=
  List.foldl_append

/-- Outside quotes at first, a reader is inside them after an odd number of quotes. -/
theorem isQuotedAfter_iff_odd {cs : List Char} :
    isQuotedAfter false cs = true ↔ Odd (cs.count '\'') := by
  -- for both states of the reader, since a quote takes it from one to the other
  have hparity : ∀ q, isQuotedAfter q cs = (q ^^ decide (Odd (cs.count '\''))) := by
    induction cs with
    | nil => simp [isQuotedAfter]
    | cons c cs ih =>
      intro q
      show isQuotedAfter (quotedAfter q c) cs = _
      rw [ih, quotedAfter, List.count_cons]
      -- a quote changes the state and the parity, and another character neither
      by_cases hc : c = '\''
      · cases q <;> by_cases hodd : Odd (cs.count '\'') <;> simp [hc, hodd, Nat.odd_add_one]
      · simp [hc]
  rw [hparity]
  simp

/-- Outside quotes at first, a reader is outside them after an even number of quotes. -/
theorem isQuotedAfter_eq_false_iff_even {cs : List Char} :
    isQuotedAfter false cs = false ↔ Even (cs.count '\'') := by
  rw [← Bool.not_eq_true, isQuotedAfter_iff_odd, Nat.not_odd_iff_even]

/-! ### One character

What the cutter does with the first character, as equations. A second one matters only outside
quotes. -/

/-- There is always a segment, perhaps an empty one. -/
theorem cutArrows_ne_nil (q : Bool) (cs : List Char) : cutArrows q cs ≠ [] := by
  fun_induction cutArrows q cs with
  | case1 => simp
  | case2 => simp
  | case3 => simp
  | case4 q c d cs h ih =>
    unfold Text.consToFirst
    split <;> simp

theorem consToFirst_eq {c : Char} {ps : List (List Char)} (h : ps ≠ []) :
    Text.consToFirst c ps = ps.modifyHead (c :: ·) := by
  cases ps with
  | nil => exact absurd rfl h
  | cons p ps => rfl

/-- A reader outside quotes cuts at an arrow and nowhere else. -/
theorem cut_iff {q : Bool} {c d : Char} :
    (!q && c = '-' && d = '>') = true ↔ q = false ∧ c = '-' ∧ d = '>' := by
  simp [and_assoc]

/-- Outside quotes an arrow is a cut. -/
theorem cutArrows_arrow (cs : List Char) :
    cutArrows false (arrow ++ cs) = [] :: cutArrows false cs := by
  show cutArrows false ('-' :: '>' :: cs) = _
  rw [cutArrows, if_pos (by decide)]

/-- A character that does not begin an arrow outside quotes goes into the first segment. -/
theorem cutArrows_cons {q : Bool} {c : Char} {cs : List Char}
    (h : q = false → c = '-' → cs.head? ≠ some '>') :
    cutArrows q (c :: cs) = (cutArrows (quotedAfter q c) cs).modifyHead (c :: ·) := by
  cases cs with
  | nil => rw [cutArrows, cutArrows, List.modifyHead_cons]
  | cons d cs =>
    have hnot : ¬ (!q && c = '-' && d = '>') = true := by
      intro hcut
      obtain ⟨hq, hc, hd⟩ := cut_iff.1 hcut
      exact h hq hc (congrArg some hd)
    rw [cutArrows, if_neg hnot, consToFirst_eq (cutArrows_ne_nil _ _)]

/-- Inside quotes any character but the closing quote goes into the first segment. -/
theorem cutArrows_quoted {c : Char} {cs : List Char} (h : c ≠ '\'') :
    cutArrows true (c :: cs) = (cutArrows true cs).modifyHead (c :: ·) := by
  rw [cutArrows_cons (fun hq => absurd hq (by decide)), quotedAfter, if_neg h]

/-! ### Texts that are put together

The cutter goes through a text with one bit of memory. When two texts are put together, the second
is cut with what the first leaves in it. -/

/-- The last segment of one text and the first of the next are one, for a reader that goes on as the
first text leaves it, if no arrow begins in the one and ends in the other. -/
theorem cutArrows_append (q : Bool) (cs ds : List Char)
    (h : cs.getLast? = some '-' → ds.head? ≠ some '>') :
    ∃ l u v r, cutArrows q cs = l ++ [u] ∧ cutArrows (isQuotedAfter q cs) ds = v :: r ∧
      cutArrows q (cs ++ ds) = l ++ (u ++ v) :: r := by
  -- The induction follows the cutter on the first text: at its end, before its last character, at
  -- an arrow, and at any other character.
  fun_induction cutArrows q cs with
  | case1 q =>
    obtain ⟨v, r, hrest⟩ := List.exists_cons_of_ne_nil (cutArrows_ne_nil q ds)
    exact ⟨[], [], v, r, rfl, hrest, hrest⟩
  | case2 q c =>
    obtain ⟨v, r, hrest⟩ := List.exists_cons_of_ne_nil (cutArrows_ne_nil (quotedAfter q c) ds)
    refine ⟨[], [c], v, r, rfl, hrest, ?_⟩
    have hfirst : q = false → c = '-' → ds.head? ≠ some '>' := fun _ hc => h (congrArg some hc)
    show cutArrows q (c :: ds) = _
    rw [cutArrows_cons hfirst, hrest]
    rfl
  | case3 q c d cs hcut ih =>
    obtain ⟨rfl, rfl, rfl⟩ := cut_iff.1 hcut
    obtain ⟨l, u, v, r, hcs, hrest, happend⟩ := ih fun hlast =>
      h (by rw [List.getLast?_cons_cons, List.getLast?_cons, hlast]; rfl)
    refine ⟨[] :: l, u, v, r, congrArg _ hcs, hrest, ?_⟩
    show cutArrows false (arrow ++ (cs ++ ds)) = _
    rw [cutArrows_arrow, happend]
    rfl
  | case4 q c d cs hcut ih =>
    obtain ⟨l, u, v, r, hcs, hrest, happend⟩ := ih fun hlast => h (by simpa using hlast)
    have hwhole : cutArrows q (c :: d :: cs ++ ds) =
        (l ++ (u ++ v) :: r).modifyHead (c :: ·) := by
      rw [← happend]
      exact cutArrows_cons fun hq hc hd => hcut (cut_iff.2 ⟨hq, hc, Option.some.inj hd⟩)
    rw [hwhole, consToFirst_eq (cutArrows_ne_nil _ _), hcs]
    cases l with
    | nil => exact ⟨[], c :: u, v, r, rfl, hrest, rfl⟩
    | cons p l => exact ⟨(c :: p) :: l, u, v, r, rfl, hrest, rfl⟩

/-- Outside quotes, what stands before an arrow and what stands after it are cut apart. -/
theorem cutArrows_append_arrow {q : Bool} {before after : List Char}
    (h : isQuotedAfter q before = false) :
    cutArrows q (before ++ arrow ++ after) = cutArrows q before ++ cutArrows false after := by
  obtain ⟨l, u, v, r, hbefore, hrest, happend⟩ :=
    cutArrows_append q before (arrow ++ after) (by simp [arrow])
  rw [h, cutArrows_arrow] at hrest
  obtain ⟨rfl, rfl⟩ := List.cons.inj hrest
  rw [List.append_assoc, happend, hbefore, List.append_nil, List.append_assoc]
  rfl

/-- Inside quotes, what stands before an arrow and what stands after it are in one segment. -/
theorem cutArrows_append_quoted {q : Bool} {before : List Char}
    (h : isQuotedAfter q before = true) (after : List Char) :
    ∃ l u v r, cutArrows q before = l ++ [u] ∧ cutArrows true after = v :: r ∧
      cutArrows q (before ++ arrow ++ after) = l ++ (u ++ arrow ++ v) :: r := by
  obtain ⟨l, u, w, r, hbefore, hrest, happend⟩ :=
    cutArrows_append q before (arrow ++ after) (by simp [arrow])
  obtain ⟨v, r', hafter⟩ := List.exists_cons_of_ne_nil (cutArrows_ne_nil true after)
  have harrow : cutArrows true (arrow ++ after) = (arrow ++ v) :: r' := by
    show cutArrows true ('-' :: '>' :: after) = _
    rw [cutArrows_quoted (by decide), cutArrows_quoted (by decide), hafter]
    rfl
  rw [h, harrow] at hrest
  obtain ⟨rfl, rfl⟩ := List.cons.inj hrest
  refine ⟨l, u, v, r', hbefore, hafter, ?_⟩
  rw [List.append_assoc, happend, List.append_assoc]

/-! ### What segments hold

Cutting loses nothing: the text is found again from its segments, and the arrows that are left in
them are quoted. -/

theorem intercalate_modifyHead {sep : List Char} {c : Char} {ps : List (List Char)} (h : ps ≠ []) :
    sep.intercalate (ps.modifyHead (c :: ·)) = c :: sep.intercalate ps := by
  match ps, h with
  | [p], _ => rfl
  | p :: p' :: ps, _ => rfl

/-- The segments with arrows between them are the text. -/
theorem intercalate_cutArrows (q : Bool) (cs : List Char) :
    arrow.intercalate (cutArrows q cs) = cs := by
  fun_induction cutArrows q cs with
  | case1 => rfl
  | case2 => rfl
  | case3 q c d cs hcut ih =>
    obtain ⟨rfl, rfl, rfl⟩ := cut_iff.1 hcut
    rw [List.intercalate_cons_of_ne_nil (cutArrows_ne_nil _ _), ih]
    rfl
  | case4 q c d cs hcut ih =>
    rw [consToFirst_eq (cutArrows_ne_nil _ _), intercalate_modifyHead (cutArrows_ne_nil _ _), ih]

theorem isPrefix_intercalate (sep p : List Char) (ps : List (List Char)) :
    p <+: sep.intercalate (p :: ps) := by
  cases ps with
  | nil => exact ⟨[], by rw [List.intercalate_singleton, List.append_nil]⟩
  | cons p' ps =>
    rw [List.intercalate_cons_of_ne_nil (List.cons_ne_nil _ _), List.append_assoc]
    exact List.prefix_append _ _

/-- The text begins with its first segment. -/
theorem isPrefix_of_cutArrows {q : Bool} {cs p : List Char} {ps : List (List Char)}
    (h : cutArrows q cs = p :: ps) : p <+: cs := by
  rw [← intercalate_cutArrows q cs, h]
  exact isPrefix_intercalate arrow p ps

/-- A text whose arrows all stand inside quotes, for a reader that is inside quotes at first or
not. -/
def IsSegment (q : Bool) (cs : List Char) : Prop :=
  ∀ u v, cs = u ++ arrow ++ v → isQuotedAfter q u = true

theorem isSegment_nil (q : Bool) : IsSegment q [] := by
  intro u v hcs
  simp [arrow] at hcs

theorem not_isSegment_arrow (cs : List Char) : ¬ IsSegment false (arrow ++ cs) := by
  intro h
  exact absurd (h [] cs rfl) (by decide)

/-- What follows the first character is a segment for the reader after it. -/
theorem IsSegment.tail {q : Bool} {c : Char} {cs : List Char} (h : IsSegment q (c :: cs)) :
    IsSegment (quotedAfter q c) cs := by
  intro u v hcs
  exact h (c :: u) v (by rw [hcs]; rfl)

/-- One more character in front keeps a segment one, unless it begins an arrow outside quotes. -/
theorem IsSegment.cons {q : Bool} {c : Char} {cs : List Char} (h : IsSegment (quotedAfter q c) cs)
    (hfirst : q = false → c = '-' → cs.head? ≠ some '>') : IsSegment q (c :: cs) := by
  intro u v hcs
  cases u with
  | nil =>
    obtain ⟨rfl, rfl⟩ := List.cons.inj hcs
    cases q with
    | true => rfl
    | false => exact absurd rfl (hfirst rfl rfl)
  | cons c' u =>
    obtain ⟨rfl, htail⟩ := List.cons.inj hcs
    exact h u v htail

/-- The first segment continues what the reader began; each later one begins outside quotes. -/
theorem isSegment_of_cutArrows {q : Bool} {cs p : List Char} {ps : List (List Char)}
    (h : cutArrows q cs = p :: ps) : IsSegment q p ∧ ∀ seg ∈ ps, IsSegment false seg := by
  -- The induction follows the cutter; only the first segment starts with the state of the reader.
  fun_induction cutArrows q cs generalizing p ps with
  | case1 q =>
    obtain ⟨rfl, rfl⟩ := List.cons.inj h
    exact ⟨isSegment_nil q, by simp⟩
  | case2 q c =>
    obtain ⟨rfl, rfl⟩ := List.cons.inj h
    exact ⟨(isSegment_nil _).cons (by simp), by simp⟩
  | case3 q c d cs hcut ih =>
    obtain ⟨rfl, rfl⟩ := List.cons.inj h
    obtain ⟨p, ps, hps⟩ := List.exists_cons_of_ne_nil (cutArrows_ne_nil false cs)
    obtain ⟨hp, hlater⟩ := ih hps
    rw [hps]
    exact ⟨isSegment_nil q, List.forall_mem_cons.2 ⟨hp, hlater⟩⟩
  | case4 q c d cs hcut ih =>
    obtain ⟨p', ps', hps⟩ :=
      List.exists_cons_of_ne_nil (cutArrows_ne_nil (quotedAfter q c) (d :: cs))
    rw [hps] at h
    obtain ⟨rfl, rfl⟩ := List.cons.inj h
    obtain ⟨hp, hlater⟩ := ih hps
    refine ⟨hp.cons ?_, hlater⟩
    -- The first segment begins as the text does, and there it is not an arrow that begins.
    rintro rfl rfl hhead
    apply hcut
    obtain ⟨rest, hrest⟩ := isPrefix_of_cutArrows hps
    have hd : (d :: cs).head? = some '>' := by rw [← hrest, List.head?_append, hhead]; rfl
    simpa using hd

/-- Every segment of a text has its arrows inside quotes. -/
theorem isSegment_of_mem_segments {cs seg : List Char} (h : seg ∈ segments cs) :
    IsSegment false seg := by
  obtain ⟨p, ps, hps⟩ := List.exists_cons_of_ne_nil (cutArrows_ne_nil false cs)
  obtain ⟨hp, hlater⟩ := isSegment_of_cutArrows hps
  rw [segments, hps] at h
  exact List.forall_mem_cons.2 ⟨hp, hlater⟩ seg h

/-- A text with all its arrows inside quotes is not cut. -/
theorem IsSegment.cutArrows {q : Bool} {cs : List Char} (h : IsSegment q cs) :
    cutArrows q cs = [cs] := by
  fun_induction Query.cutArrows q cs with
  | case1 => rfl
  | case2 => rfl
  | case3 q c d cs hcut ih =>
    obtain ⟨rfl, rfl, rfl⟩ := cut_iff.1 hcut
    exact absurd h (not_isSegment_arrow cs)
  | case4 q c d cs hcut ih => rw [ih h.tail]; rfl

/-- If a text has more than one segment, a reader is outside quotes after the first one, an arrow
follows it there, and the later segments are those of the rest. -/
theorem exists_rest_of_cutArrows {q : Bool} {cs p : List Char} {ps : List (List Char)}
    (h : cutArrows q cs = p :: ps) (hne : ps ≠ []) :
    isQuotedAfter q p = false ∧ ∃ rest, cs = p ++ arrow ++ rest ∧ cutArrows false rest = ps := by
  have hfirst : cutArrows q p = [p] := (isSegment_of_cutArrows h).1.cutArrows
  have hcs : cs = p ++ arrow ++ arrow.intercalate ps := by
    rw [← intercalate_cutArrows q cs, h, List.intercalate_cons_of_ne_nil hne]
  have hclosed : isQuotedAfter q p = false := by
    rw [← Bool.not_eq_true]
    intro hopen
    -- The arrow would be quoted, and the first segment would reach beyond it.
    obtain ⟨l, u, v, r, hu, -, hwhole⟩ := cutArrows_append_quoted hopen (arrow.intercalate ps)
    rw [hfirst] at hu
    obtain ⟨rfl, rfl⟩ := List.append_singleton_inj.1 (show [] ++ [p] = l ++ [u] from hu)
    rw [← hcs, h] at hwhole
    have hlong : p = p ++ arrow ++ v := (List.cons.inj hwhole).1
    simp [arrow] at hlong
  refine ⟨hclosed, arrow.intercalate ps, hcs, ?_⟩
  have hwhole : cutArrows q cs = p :: cutArrows false (arrow.intercalate ps) := by
    rw [hcs, cutArrows_append_arrow hclosed, hfirst]
    rfl
  rw [hwhole] at h
  exact (List.cons.inj h).2

/-- Every segment but the last closes the quotes that it opens. -/
theorem isQuotedAfter_of_mem_dropLast {cs : List Char} {ps : List (List Char)}
    (h : segments cs = ps) : ∀ p ∈ ps.dropLast, isQuotedAfter false p = false := by
  induction ps generalizing cs with
  | nil => exact List.forall_mem_nil _
  | cons p ps ih =>
    cases ps with
    | nil => exact List.forall_mem_nil _
    | cons p' ps =>
      obtain ⟨hp, rest, -, hrest⟩ := exists_rest_of_cutArrows h (List.cons_ne_nil _ _)
      rw [List.dropLast_cons_cons, List.forall_mem_cons]
      exact ⟨hp, ih hrest⟩

/-- Texts that are segments, each but the last closing the quotes that it opens, are found again
when they are written with arrows between them. -/
theorem segments_intercalate_of_dropLast {ps : List (List Char)} (hne : ps ≠ [])
    (hseg : ∀ p ∈ ps, IsSegment false p)
    (hclosed : ∀ p ∈ ps.dropLast, isQuotedAfter false p = false) :
    segments (arrow.intercalate ps) = ps := by
  -- The induction is on the segments. After each but the last the reader is outside quotes, so the
  -- arrow there is cut.
  induction ps with
  | nil => exact absurd rfl hne
  | cons p ps ih =>
    rw [List.forall_mem_cons] at hseg
    have hp : cutArrows false p = [p] := hseg.1.cutArrows
    cases ps with
    | nil =>
      rw [List.intercalate_singleton]
      exact hp
    | cons p' ps =>
      rw [List.dropLast_cons_cons, List.forall_mem_cons] at hclosed
      rw [List.intercalate_cons_of_ne_nil (List.cons_ne_nil _ _), segments,
        cutArrows_append_arrow hclosed.1, hp]
      exact congrArg (p :: ·) (ih (List.cons_ne_nil _ _) hseg.2 hclosed.2)

/-- Texts that are segments, each closing the quotes that it opens, are found again when they are
written with arrows between them. -/
theorem segments_intercalate {ps : List (List Char)} (hne : ps ≠ [])
    (hseg : ∀ p ∈ ps, IsSegment false p) (hclosed : ∀ p ∈ ps, isQuotedAfter false p = false) :
    segments (arrow.intercalate ps) = ps :=
  segments_intercalate_of_dropLast hne hseg fun p hp => hclosed p (List.dropLast_subset ps hp)

/-! ### The segments of a text

Both directions together. A list of texts that could have been the segments is the list of the
segments. -/

/-- Segments that make up a text: with arrows between them they are the text, none has an arrow
outside its own quotes, and each but the last has an even number of quotes. There is at least one,
since no segments and one empty segment would both make up the empty text. -/
structure IsSegmentation (ps : List (List Char)) (cs : List Char) : Prop where
  ne_nil : ps ≠ []
  joined : arrow.intercalate ps = cs
  isSegment : ∀ p ∈ ps, IsSegment false p
  even_quotes : ∀ p ∈ ps.dropLast, Even (p.count '\'')

/-- The segments that a text is cut into are the only ones that make it up. -/
theorem segments_eq_iff {cs : List Char} {ps : List (List Char)} :
    segments cs = ps ↔ IsSegmentation ps cs := by
  constructor
  · intro h
    have hclosed := isQuotedAfter_of_mem_dropLast h
    subst h
    constructor
    case ne_nil => exact cutArrows_ne_nil false cs
    case joined => exact intercalate_cutArrows false cs
    case isSegment => exact fun p hp => isSegment_of_mem_segments hp
    case even_quotes => exact fun p hp => isQuotedAfter_eq_false_iff_even.1 (hclosed p hp)
  · rintro ⟨hne, rfl, hseg, heven⟩
    apply segments_intercalate_of_dropLast hne hseg
    intro p hp
    exact isQuotedAfter_eq_false_iff_even.2 (heven p hp)

/-- A dash before an arrow, an arrow in quotes, and a quote that is left open. -/
example : segments "é-->it's->x'->y'z->".toList =
    ["é-", "it's->x'", "y'z->"].map String.toList := by decide

end TenantGate.Query
