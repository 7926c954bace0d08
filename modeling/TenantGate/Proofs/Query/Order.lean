import Mathlib.Data.Set.List
import TenantGate.Proofs.Query.Arrows
import TenantGate.Proofs.Text.Separated
/-!
# The order of calls

Every method of an expression sets or extends a part of its own, so that only the order of the calls
of one method among themselves counts: what is built is said by the steps of each method alone
(`Expression.IsBuiltBy`, `isBuiltBy_foldl`). Where each segment closes the quotes that it opens, the
segments of an expression are found again in any order, with blank ones among them or without
(`Expression.read_intercalate`). So an expression whose calls are rearranged is read as the same
expression (`Expression.read_rearranged`).
-/

namespace TenantGate.Query

open Text

/-! ### What steps build

A step of one method never touches the part of another. So the steps are looked at method by method,
and from the end: one more step is the last of its method. -/

/-- What is built if `steps m` are the steps with the method `m`, in their order: all joins,
conditions and orders, and the last table, columns and limit. -/
structure Expression.IsBuiltBy (e : Expression) (steps : String → List Step) : Prop where
  base : (steps "table").getLast?.getD (.table ⟨"", ""⟩) = .table e.base
  select : (steps "select").getLast?.getD (.select []) = .select e.select
  joins : steps "join" = e.joins.map .join
  wheres : steps "where" = e.wheres.map .where
  orderBy : steps "orderby" = e.orderBy.map .orderBy
  limit : (steps "take").getLast? = e.limit.map .take

/-- The steps of each method say what is built. -/
theorem Expression.IsBuiltBy.eq {e e' : Expression} {steps : String → List Step}
    (h : e.IsBuiltBy steps) (h' : e'.IsBuiltBy steps) : e = e' := by
  -- lists with one image under an injection are the same, for the parts that keep all their steps
  have hmap {α : Type} {f : α → Step} (hf : f.Injective) {m : String} {as as' : List α}
      (has : steps m = as.map f) (has' : steps m = as'.map f) : as = as' :=
    List.map_injective_iff.2 hf (has.symm.trans has')
  rw [Expression.mk.injEq]
  exact ⟨Step.table.inj (h.base.symm.trans h'.base),
    Step.select.inj (h.select.symm.trans h'.select),
    hmap (fun _ _ => Step.join.inj) h.joins h'.joins,
    hmap (fun _ _ => Step.where.inj) h.wheres h'.wheres,
    hmap (fun _ _ => Step.orderBy.inj) h.orderBy h'.orderBy,
    Option.map_injective (fun _ _ => Step.take.inj) (h.limit.symm.trans h'.limit)⟩

/-- A table that is named is that of the last step that names one. -/
theorem Expression.IsBuiltBy.getLast?_table {e : Expression} {steps : String → List Step}
    (h : e.IsBuiltBy steps) (htable : e.base.table ≠ "") :
    (steps "table").getLast? = some (.table e.base) := by
  have hbase := h.base
  cases hlast : (steps "table").getLast? with
  | some step =>
    rw [hlast] at hbase
    exact congrArg some hbase
  | none =>
    rw [hlast] at hbase
    exact absurd (congrArg NamedTable.table (Step.table.inj hbase)).symm htable

/-- One more step is the last one of its method. -/
theorem Expression.IsBuiltBy.apply {e : Expression} {steps : String → List Step}
    (h : e.IsBuiltBy steps) (step : Step) : (e.apply step).IsBuiltBy
      (Function.update steps step.method (steps step.method ++ [step])) := by
  cases step <;> constructor <;>
    simp [Step.method, Expression.apply, h.base, h.select, h.joins, h.wheres, h.orderBy, h.limit]

/-- Steps build what those of each method say. -/
theorem isBuiltBy_foldl (steps : List Step) :
    (steps.foldl Expression.apply {}).IsBuiltBy fun m => steps.filter (·.method = m) := by
  induction steps using List.reverseRecOn with
  | nil => exact ⟨rfl, rfl, rfl, rfl, rfl, rfl⟩
  | append_singleton steps step ih =>
    have hsteps : (fun m => (steps ++ [step]).filter (·.method = m)) =
        Function.update (fun m => steps.filter (·.method = m)) step.method
          (steps.filter (·.method = step.method) ++ [step]) := by
      funext m
      rw [List.filter_append, Function.update_apply]
      by_cases hm : m = step.method
      · simp [hm]
      · simp [hm, Ne.symm hm]
    rw [List.foldl_append, hsteps]
    exact ih.apply step

/-! ### What segments are read as

Segments are compared as trimmed texts. The reader carries an index along, which it uses in failures
alone; `step?` reads a text without one. -/

/-- The trimmed segments that are not blank. -/
def callTexts (segs : List (List Char)) : List (List Char) := (segs.map trimChars).filter (· ≠ [])

/-- The method that a text calls, in lower case, if it is the text of a call. -/
def method? (cs : List Char) : Option String :=
  (readCall (trimChars cs)).map fun call => Text.lower call.method

/-- The step that a text is read as, if it is read as one. -/
def step? (cs : List Char) : Option Step := (readStep 0 cs).toOption.join

/-- The steps that the segments with a method are read as, in their order. -/
def stepsOf (segs : List (List Char)) (m : String) : List Step :=
  ((callTexts segs).filter (method? · = some m)).filterMap step?

theorem callTexts_append (segs segs' : List (List Char)) :
    callTexts (segs ++ segs') = callTexts segs ++ callTexts segs' := by
  rw [callTexts, List.map_append, List.filter_append]
  rfl

/-- A blank segment makes no call. -/
theorem callTexts_cons (seg : List Char) (segs : List (List Char)) :
    callTexts (seg :: segs) =
      if trimChars seg = [] then callTexts segs else trimChars seg :: callTexts segs := by
  rw [callTexts, List.map_cons, List.filter_cons]
  by_cases hseg : trimChars seg = [] <;> simp [hseg, callTexts]

theorem exists_of_mem_callTexts {segs : List (List Char)} {cs : List Char}
    (h : cs ∈ callTexts segs) : ∃ seg ∈ segs, trimChars seg = cs :=
  List.mem_map.1 (List.mem_filter.1 h).1

theorem readStep_trimChars (i : Nat) (cs : List Char) :
    readStep i (trimChars cs) = readStep i cs := by
  rw [readStep, readStep, trimChars_trimChars]

/-- The place of a segment in the chain is told in failures only. -/
theorem readStep_eq_ok_of_eq_ok {i : Nat} (j : Nat) {cs : List Char} {step : Option Step}
    (h : readStep i cs = .ok step) : readStep j cs = .ok step := by
  unfold readStep at h ⊢
  dsimp only at h ⊢
  split at h
  next hempty => rwa [if_pos hempty]
  next hempty =>
    rw [if_neg hempty]
    split at h
    next => cases h
    next =>
      -- an unknown method is a failure, and all others are read alike
      split at h
      all_goals first | exact h | cases h

/-- A text is read as the same step wherever it stands. -/
theorem step?_eq_some_iff (i : Nat) {cs : List Char} {step : Step} :
    step? cs = some step ↔ readStep i cs = .ok (some step) := by
  rw [step?, Option.join_eq_some_iff, toOption_eq_some_iff]
  exact ⟨readStep_eq_ok_of_eq_ok i, readStep_eq_ok_of_eq_ok 0⟩

/-- Only a blank text is passed over. -/
theorem readStep_eq_none_iff {i : Nat} {cs : List Char} :
    readStep i cs = .ok none ↔ trimChars cs = [] := by
  constructor
  · intro h
    by_contra hne
    unfold readStep at h
    dsimp only at h
    rw [if_neg (by rwa [List.isEmpty_iff])] at h
    split at h
    · cases h
    · obtain ⟨step, -, h⟩ := map_eq_ok_iff.1 h
      cases h
  · intro h
    rw [readStep, h]
    rfl

/-- What is read as a step calls the method of that step. -/
theorem method?_of_step? {cs : List Char} {step : Step} (h : step? cs = some step) :
    method? cs = some step.method := by
  obtain ⟨call, hcall, hmethod, -⟩ := call_of_readStep ((step?_eq_some_iff 0).1 h)
  rw [method?, hcall, ← hmethod]
  rfl

/-- Segments are read if each one that is not blank is read as a step. -/
theorem readSteps_eq_ok_iff {i : Nat} {segs : List (List Char)} {steps : List Step} :
    readSteps i segs = .ok steps ↔ (callTexts segs).map step? = steps.map some := by
  -- The induction is on the segments; a blank one is passed over on both sides.
  induction segs generalizing i steps with
  | nil =>
    show Except.ok [] = .ok steps ↔ [] = steps.map some
    rw [Except.ok.injEq, eq_comm (a := []), eq_comm (a := []), List.map_eq_nil_iff]
  | cons seg segs ih =>
    rw [callTexts_cons]
    by_cases hseg : trimChars seg = []
    · rw [if_pos hseg, readSteps, readStep_eq_none_iff.2 hseg, ← ih (i := i + 1)]
      show (readSteps (i + 1) segs >>= pure) = .ok steps ↔ _
      rw [bind_pure]
    · have hstep {step : Step} : readStep i seg = .ok (some step) ↔
          step? (trimChars seg) = some step := by
        rw [step?_eq_some_iff i, readStep_trimChars]
      rw [if_neg hseg, readSteps, bind_eq_ok_iff, List.map_cons]
      constructor
      · rintro ⟨step, hread, h⟩
        obtain ⟨rest, hrest, h⟩ := bind_eq_ok_iff.1 h
        obtain rfl := pure_eq_ok_iff.1 h
        cases step with
        | none => exact absurd (readStep_eq_none_iff.1 hread) hseg
        | some step =>
          rw [hstep.1 hread, ih.1 hrest]
          rfl
      · intro h
        obtain ⟨step, rest, rfl, hread, hrest⟩ := List.map_eq_cons_iff.1 h.symm
        exact ⟨some step, hstep.2 hread.symm, bind_eq_ok_iff.2 ⟨rest, ih.2 hrest.symm, rfl⟩⟩

/-- Steps with a method are those of the segments with the method. -/
theorem stepsOf_eq_filter {segs : List (List Char)} {steps : List Step}
    (h : (callTexts segs).map step? = steps.map some) (m : String) :
    stepsOf segs m = steps.filter (·.method = m) := by
  unfold stepsOf
  generalize callTexts segs = texts at h
  induction texts generalizing steps with
  | nil =>
    obtain rfl : steps = [] := List.map_eq_nil_iff.1 h.symm
    rfl
  | cons cs texts ih =>
    obtain ⟨step, steps, rfl, hstep, hsteps⟩ := List.map_eq_cons_iff.1 h.symm
    have hmethod := method?_of_step? hstep.symm
    rw [List.filter_cons, List.filter_cons, ← ih hsteps.symm]
    by_cases hm : step.method = m
    · rw [if_pos (by simp [hmethod, hm]), if_pos (by simp [hm]),
        List.filterMap_cons_some hstep.symm]
    · rw [if_neg (by simp [hmethod, hm]), if_neg (by simp [hm])]

/-! ### Blanks at the ends of an expression

An expression is trimmed before it is cut. Since its segments are trimmed as well, this changes
nothing. -/

/-- No arrow is, begins or ends among blanks. -/
theorem cutArrows_blank {q : Bool} {bs : List Char} (h : IsBlankText bs) : cutArrows q bs = [bs] :=
  IsSegment.cutArrows fun u v hbs =>
    absurd (h.not_mem (c := '-') (by decide)) (by simp [hbs, arrow])

/-- Blanks in front go into the first segment. -/
theorem segments_blank_append {bs : List Char} (h : IsBlankText bs) (cs : List Char) :
    ∃ v r, segments cs = v :: r ∧ segments (bs ++ cs) = (bs ++ v) :: r := by
  have hlast : bs.getLast? = some '-' → cs.head? ≠ some '>' := fun hlast =>
    absurd (List.mem_of_getLast? hlast) (h.not_mem (by decide))
  obtain ⟨l, u, v, r, hbs, hcs, happend⟩ := cutArrows_append false bs cs hlast
  rw [cutArrows_blank h] at hbs
  rw [isQuotedAfter_of_not_mem (h.not_mem (by decide))] at hcs
  obtain ⟨rfl, rfl⟩ := List.append_singleton_inj.1 (show [] ++ [bs] = l ++ [u] from hbs)
  exact ⟨v, r, hcs, happend⟩

/-- Blanks at the end go into the last segment. -/
theorem segments_append_blank {bs : List Char} (h : IsBlankText bs) (cs : List Char) :
    ∃ l u, segments cs = l ++ [u] ∧ segments (cs ++ bs) = l ++ [u ++ bs] := by
  have hhead : cs.getLast? = some '-' → bs.head? ≠ some '>' := fun _ hhead =>
    h.not_mem (by decide) (List.mem_of_mem_head? hhead)
  obtain ⟨l, u, v, r, hcs, hbs, happend⟩ := cutArrows_append false cs bs hhead
  rw [cutArrows_blank h] at hbs
  obtain ⟨rfl, rfl⟩ := List.cons.inj hbs
  exact ⟨l, u, hcs, happend⟩

/-- An expression and its trimmed text have the same calls. -/
theorem callTexts_segments_trimChars (cs : List Char) :
    callTexts (segments (trimChars cs)) = callTexts (segments cs) := by
  obtain ⟨bs, bs', hbs, hbs', hcs⟩ := exists_trimChars cs
  generalize trimChars cs = t at hcs
  subst hcs
  obtain ⟨l, u, ht, hend⟩ := segments_append_blank hbs' t
  obtain ⟨v, r, ht', hstart⟩ := segments_blank_append hbs (t ++ bs')
  have htrim : trimChars (bs ++ v) = trimChars v := congrArg trimEnd (trimStart_blank_append hbs)
  -- first the blanks at the end, then those in front
  calc callTexts (segments t)
      = callTexts (segments (t ++ bs')) := by
        rw [ht, hend, callTexts_append, callTexts_append, callTexts_cons, callTexts_cons,
          trimChars_append_blank hbs']
    _ = callTexts (segments (bs ++ t ++ bs')) := by
        rw [List.append_assoc, ht', hstart, callTexts_cons, callTexts_cons, htrim]

/-! ### Segments that close their quotes

Behind a segment that leaves its quotes open an arrow would be quoted. With an even number of quotes
a segment can stand anywhere. -/

/-- A segment that closes the quotes it opens. -/
structure IsClosed (cs : List Char) : Prop where
  segment : IsSegment false cs
  quotes : isQuotedAfter false cs = false

theorem isClosed_nil : IsClosed [] := ⟨isSegment_nil false, rfl⟩

theorem isClosed_of_even {cs seg : List Char} (hseg : seg ∈ segments cs)
    (heven : Even (seg.count '\'')) : IsClosed seg :=
  ⟨isSegment_of_mem_segments hseg, isQuotedAfter_eq_false_iff_even.2 heven⟩

/-- Blanks around a segment leave it one. -/
theorem isClosed_trimChars {cs : List Char} : IsClosed (trimChars cs) ↔ IsClosed cs := by
  obtain ⟨bs, bs', hbs, hbs', hcs⟩ := exists_trimChars cs
  generalize trimChars cs = t at hcs
  subst hcs
  have hbefore (u : List Char) : isQuotedAfter false (bs ++ u) = isQuotedAfter false u := by
    rw [isQuotedAfter_append, isQuotedAfter_of_not_mem (hbs.not_mem (by decide))]
  have hquotes : isQuotedAfter false (bs ++ t ++ bs') = isQuotedAfter false t := by
    rw [isQuotedAfter_append, isQuotedAfter_of_not_mem (hbs'.not_mem (by decide)), hbefore]
  -- An arrow of the one text is an arrow of the other, for blanks are no part of it.
  constructor
  · rintro ⟨hsegment, hclosed⟩
    refine ⟨fun u v huv => ?_, hquotes.trans hclosed⟩
    have hafter : bs'.head? ≠ some '>' := fun hhead =>
      hbs'.not_mem (by decide) (List.mem_of_mem_head? hhead)
    obtain ⟨v', hleft, -⟩ := arrow_left (hbs'.not_mem (by decide)) hafter huv
    obtain ⟨u', rfl, ht⟩ := arrow_right (hbs.not_mem (by decide)) hleft
    rw [hbefore]
    exact hsegment u' v' ht
  · rintro ⟨hsegment, hclosed⟩
    refine ⟨fun u v huv => ?_, hquotes.symm.trans hclosed⟩
    rw [← hbefore]
    exact hsegment (bs ++ u) (v ++ bs') (by rw [huv]; simp)

/-! ### Rearranged segments

Calls may change places with calls of other methods, and blank segments may come and go. -/

/-- The calls of the one list are those of the other, and those of each method come in the same
order. -/
structure IsRearranged (segs segs' : List (List Char)) : Prop where
  perm : (callTexts segs).Perm (callTexts segs')
  order : ∀ cs ∈ callTexts segs, (callTexts segs).filter (method? · = method? cs) =
    (callTexts segs').filter (method? · = method? cs)

variable {segs segs' : List (List Char)}

/-- The calls of a method are the same. -/
theorem IsRearranged.filter_eq (h : IsRearranged segs segs') (m : Option String) :
    (callTexts segs).filter (method? · = m) = (callTexts segs').filter (method? · = m) := by
  by_cases hm : ∃ cs ∈ callTexts segs, method? cs = m
  · obtain ⟨cs, hcs, rfl⟩ := hm
    exact h.order cs hcs
  · have hnone : (callTexts segs).filter (method? · = m) = [] := by
      rw [List.filter_eq_nil_iff]
      exact fun cs hcs heq => hm ⟨cs, hcs, of_decide_eq_true heq⟩
    have hperm := h.perm.filter (method? · = m)
    rw [hnone] at hperm ⊢
    exact hperm.nil_eq

/-- No call is within another one's quotes. -/
theorem IsRearranged.isClosed (h : IsRearranged segs segs') (hclosed : ∀ seg ∈ segs, IsClosed seg) :
    ∀ seg ∈ segs', IsClosed seg := by
  intro seg hseg
  rw [← isClosed_trimChars]
  by_cases hblank : trimChars seg = []
  · rw [hblank]
    exact isClosed_nil
  · have hcall : trimChars seg ∈ callTexts segs' :=
      List.mem_filter.2 ⟨List.mem_map_of_mem hseg, decide_eq_true hblank⟩
    obtain ⟨seg', hseg', htrim⟩ := exists_of_mem_callTexts (h.perm.mem_iff.2 hcall)
    rw [← htrim, isClosed_trimChars]
    exact hclosed seg' hseg'

theorem IsRearranged.stepsOf_eq (h : IsRearranged segs segs') : stepsOf segs = stepsOf segs' := by
  funext m
  rw [stepsOf, stepsOf, h.filter_eq]

/-- Rearranged segments are read if the segments are. -/
theorem IsRearranged.exists_readSteps (h : IsRearranged segs segs') {i : Nat} {steps : List Step}
    (hsteps : readSteps i segs = .ok steps) :
    ∃ steps' : List Step, (callTexts segs').map step? = steps'.map some := by
  have hmem : (callTexts segs').map step? ∈ Set.range (List.map (some : Step → Option Step)) := by
    rw [Set.range_list_map]
    intro o ho
    obtain ⟨step, -, rfl⟩ := List.mem_map.1
      (readSteps_eq_ok_iff.1 hsteps ▸ (h.perm.map step?).mem_iff.2 ho)
    exact ⟨step, rfl⟩
  obtain ⟨steps', hsteps'⟩ := hmem
  exact ⟨steps', hsteps'.symm⟩

instance : Decidable (IsRearranged segs segs') :=
  decidable_of_iff
    ((callTexts segs).Perm (callTexts segs') ∧
      ∀ cs ∈ callTexts segs, (callTexts segs).filter (method? · = method? cs) =
        (callTexts segs').filter (method? · = method? cs))
    ⟨fun h => ⟨h.1, h.2⟩, fun h => ⟨h.perm, h.order⟩⟩

/-- Segments that close their quotes are read with arrows between them, if each one that is not
blank is read as a step. -/
theorem Expression.read_intercalate {steps : List Step} {e : Expression}
    (hclosed : ∀ seg ∈ segs, IsClosed seg) (hsteps : (callTexts segs).map step? = steps.map some)
    (he : steps.foldl Expression.apply {} = e) (htable : e.base.table ≠ "") :
    Expression.read (String.ofList (arrow.intercalate segs)) = .ok e := by
  -- an expression with a table has at least one call
  have hcalls : callTexts segs ≠ [] := by
    intro hnil
    rw [hnil] at hsteps
    obtain rfl : steps = [] := List.map_eq_nil_iff.1 hsteps.symm
    exact htable (he ▸ rfl)
  have hsegments : segments (arrow.intercalate segs) = segs := by
    refine segments_intercalate ?_ (fun seg hseg => (hclosed seg hseg).segment)
      fun seg hseg => (hclosed seg hseg).quotes
    rintro rfl
    exact hcalls rfl
  have htrimmed : callTexts (segments (trimChars (arrow.intercalate segs))) = callTexts segs := by
    rw [callTexts_segments_trimChars, hsegments]
  rw [Expression.read_eq_ok_iff, String.toList_ofList]
  refine ⟨?_, steps, ?_, he, htable⟩
  · intro hnil
    rw [hnil] at htrimmed
    exact hcalls htrimmed.symm
  · rw [readSteps_eq_ok_iff, htrimmed]
    exact hsteps

/-- If each segment of an expression that is read closes the quotes it opens, then its segments are
read as the same expression in any order in which those of each method follow one another as before,
and with any blank segments among them. The joins, conditions and orders of the expression are all
of their segments, and its table, columns and limit are those of the last such segment. -/
theorem Expression.read_rearranged {s : String} {e : Expression} (h : Expression.read s = .ok e)
    (heven : ∀ seg ∈ segments (trimChars s.toList), Even (seg.count '\''))
    (hsegs : IsRearranged (segments (trimChars s.toList)) segs') :
    Expression.read (String.ofList (arrow.intercalate segs')) = .ok e ∧
      (∀ cs ∈ callTexts segs', ∃ step, step? cs = some step) ∧
      e.IsBuiltBy (stepsOf segs') ∧ (stepsOf segs' "table").getLast? = some (.table e.base) := by
  obtain ⟨-, steps, hsteps, he, htable⟩ := Expression.read_eq_ok_iff.1 h
  obtain ⟨steps', hsteps'⟩ := hsegs.exists_readSteps hsteps
  have hbuilt : e.IsBuiltBy (stepsOf segs') := by
    rw [← he, ← hsegs.stepsOf_eq, funext (stepsOf_eq_filter (readSteps_eq_ok_iff.1 hsteps))]
    exact isBuiltBy_foldl steps
  have hbuilt' : (steps'.foldl Expression.apply {}).IsBuiltBy (stepsOf segs') := by
    rw [funext (stepsOf_eq_filter hsteps')]
    exact isBuiltBy_foldl steps'
  have hclosed : ∀ seg ∈ segs', IsClosed seg :=
    hsegs.isClosed fun seg hseg => isClosed_of_even hseg (heven seg hseg)
  refine ⟨Expression.read_intercalate hclosed hsteps' (hbuilt'.eq hbuilt) htable, ?_, hbuilt,
    hbuilt.getLast?_table htable⟩
  intro cs hcs
  obtain ⟨step, -, hstep⟩ := List.mem_map.1 (hsteps' ▸ List.mem_map_of_mem hcs)
  exact ⟨step, hstep.symm⟩

/-- Methods in either letter case, an arrow in quotes, blank segments, and blanks around calls. -/
theorem Expression.read_rearranged_methods :
    let text := "table('notes')->where('a',1)-> ->TAKE(3)->Where('b','x->y')->take( 5 )"
    let segs := ["  TAKE(3)", "where('a',1)", "", "take( 5 ) ", "table('notes')",
      "Where('b','x->y')", "\n"].map String.toList
    let e : Expression :=
      { base := ⟨"notes", "notes"⟩
        wheres := [⟨⟨none, "a", "a"⟩, .compare .equal, .int 1⟩,
          ⟨⟨none, "b", "b"⟩, .compare .equal, .text "x->y"⟩]
        limit := some 5 }
    Expression.read text = .ok e ∧
      (∀ seg ∈ segments (trimChars text.toList), Even (seg.count '\'')) ∧
      IsRearranged (segments (trimChars text.toList)) segs ∧
      Expression.read (String.ofList (arrow.intercalate segs)) = .ok e ∧
      e.IsBuiltBy (stepsOf segs) := by
  intro text segs e
  have hread : Expression.read text = .ok e := by decide +kernel
  have heven : ∀ seg ∈ segments (trimChars text.toList), Even (seg.count '\'') := by decide +kernel
  have hsegs : IsRearranged (segments (trimChars text.toList)) segs := by decide +kernel
  obtain ⟨hread', -, hbuilt, -⟩ := Expression.read_rearranged hread heven hsegs
  exact ⟨hread, heven, hsegs, hread', hbuilt⟩

end TenantGate.Query
