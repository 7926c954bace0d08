import TenantGate.Proofs.Text
/-!
# Items between separators

What is written between separators is found again when the text is cut at them, if no item contains
the separator: the items of a comma list (`commaList_intercalate`) and the lines of a text
(`exists_lines_append`). An item of a comma list neither begins nor ends with a blank, so that it is
told apart from blanks around it (`IsItem`).
-/

namespace TenantGate.Text

/-! ### Ends of texts that are put together

Around a visible character, trimming a whole text is trimming the start of what stands before it and
the end of what stands after it. -/

/-- Trimming the start stops at a visible character at the latest. -/
theorem trimStart_append_cons {c : Char} (hc : isBlank c = false) (a b : List Char) :
    trimStart (a ++ c :: b) = trimStart a ++ c :: b := by
  induction a with
  | nil => exact trimStart_cons_of_not_blank hc
  | cons d a ih =>
    by_cases hd : isBlank d = true
    · have hblank : IsBlankText [d] := List.forall_mem_singleton.2 hd
      have hleft : trimStart (d :: (a ++ c :: b)) = trimStart (a ++ c :: b) :=
        trimStart_blank_append hblank
      have hright : trimStart (d :: a) = trimStart a := trimStart_blank_append hblank
      rw [List.cons_append, hleft, hright, ih]
    · rw [Bool.not_eq_true] at hd
      rw [trimStart_cons_of_not_blank hd, List.cons_append, trimStart_cons_of_not_blank hd]

/-- So does trimming the end. -/
theorem trimEnd_append_cons {c : Char} (hc : isBlank c = false) (a b : List Char) :
    trimEnd (a ++ c :: b) = a ++ c :: trimEnd b := by
  have hreverse : (a ++ c :: b).reverse = b.reverse ++ c :: a.reverse := by simp
  have hstart : trimStart (a ++ c :: b).reverse = trimStart b.reverse ++ c :: a.reverse := by
    rw [hreverse, trimStart_append_cons hc]
  calc trimEnd (a ++ c :: b) = (trimStart b.reverse ++ c :: a.reverse).reverse :=
        congrArg List.reverse hstart
    _ = a ++ c :: (trimStart b.reverse).reverse := by simp

/-- The two sides of a visible character are trimmed apart. -/
theorem trimChars_append_cons {c : Char} (hc : isBlank c = false) (a b : List Char) :
    trimChars (a ++ c :: b) = trimStart a ++ c :: trimEnd b := by
  rw [trimChars, trimStart_append_cons hc, trimEnd_append_cons hc]

/-- Blanks at the end do not matter to a text that is trimmed. -/
theorem trimChars_append_blank {cs bs : List Char} (h : IsBlankText bs) :
    trimChars (cs ++ bs) = trimChars cs := by
  obtain ⟨before, after, hbefore, hafter, hcs⟩ := exists_trimChars cs
  calc trimChars (cs ++ bs)
      = trimChars (before ++ trimChars cs ++ (after ++ bs)) := by
        rw [← List.append_assoc, ← hcs]
    _ = trimChars cs := trimChars_between hbefore (hafter.append h) (trimChars_trimChars cs)

/-- Trimming the start first changes nothing. -/
theorem trimChars_trimStart (cs : List Char) : trimChars (trimStart cs) = trimChars cs :=
  congrArg trimEnd (trimStart_trimStart cs)

/-- Nor does trimming the end first. -/
theorem trimChars_trimEnd (cs : List Char) : trimChars (trimEnd cs) = trimChars cs := by
  obtain ⟨bs, hbs, hcs⟩ := exists_trimEnd cs
  rw [← trimChars_append_blank hbs, ← hcs]

theorem trim_eq_self_iff {s : String} : trim s = s ↔ trimChars s.toList = s.toList := by
  rw [← String.toList_inj, trim, String.toList_ofList]

theorem trimStart_of_trim {s : String} (h : trim s = s) : trimStart s.toList = s.toList := by
  rw [← trim_eq_self_iff.1 h, trimStart_trimChars]

theorem trimEnd_of_trim {s : String} (h : trim s = s) : trimEnd s.toList = s.toList := by
  rw [← trim_eq_self_iff.1 h]
  exact trimEnd_trimEnd _

/-- Trimming adds no character. -/
theorem not_mem_trim {c : Char} {s : String} (h : c ∉ s.toList) : c ∉ (trim s).toList := by
  obtain ⟨bs, bs', -, -, hs⟩ := exists_trimChars s.toList
  rw [trim, String.toList_ofList]
  intro hmem
  rw [hs] at h
  simp [hmem] at h

/-- Blanks before a visible character are trimmed, and blanks at the end. -/
theorem toList_trim_visible {c : Char} (hc : isBlank c = false) {s : String} {bs rest : List Char}
    (hbs : IsBlankText bs) (h : s.toList = bs ++ c :: rest) :
    (trim s).toList = c :: trimEnd rest := by
  rw [trim, String.toList_ofList, h, trimChars_append_cons hc, trimStart_eq_nil_iff.2 hbs,
    List.nil_append]

/-! ### Texts around a sign

A sign of one character between two texts, such as the `=` of a setting. -/

/-- The characters of such a text. -/
theorem toList_between {sign : String} {c : Char} (h : sign.toList = [c]) (s t : String) :
    (s ++ sign ++ t).toList = s.toList ++ c :: t.toList := by
  rw [String.toList_append, String.toList_append, h, List.append_assoc, List.singleton_append]

/-- The text is cut at the sign, if that is not in the first part. -/
theorem splitOnce_between {sign : String} {c : Char} (h : sign.toList = [c]) {s : String}
    (hs : c ∉ s.toList) (t : String) : splitOnce c (s ++ sign ++ t) = some (s, t) := by
  rw [splitOnce, toList_between h, splitOnceChars_append hs]
  simp only [Option.map_some, String.ofList_toList]

/-- Without the sign it is not cut. -/
theorem splitOnce_eq_none {c : Char} {s : String} (h : c ∉ s.toList) : splitOnce c s = none := by
  rw [splitOnce, Option.map_eq_none_iff, Option.eq_none_iff_forall_ne_some]
  rintro ⟨a, b⟩ hcut
  obtain ⟨hs, -⟩ := splitOnceChars_eq_some_iff.1 hcut
  rw [hs] at h
  simp at h

/-! ### Lists

An item of a comma list has no comma in it and no blanks around it. So a list of items is determined
by its text, whatever blanks stand around the commas. -/

/-- The cut at a separator is the one of the library. -/
theorem splitChars_eq_splitOn (sep : Char) (cs : List Char) :
    splitChars sep cs = cs.splitOn sep := by
  induction cs with
  | nil => rfl
  | cons c cs ih =>
    rw [splitChars, List.splitOn_cons_eq_if_modifyHead, ih]
    obtain ⟨p, ps, hps⟩ := List.exists_cons_of_ne_nil (List.splitOn_ne_nil sep cs)
    simp [hps, consToFirst]

/-- A character that is in no part, and is not the separator, is not in the whole. -/
theorem not_mem_intercalate {c sep : Char} (hc : c ≠ sep) {ps : List (List Char)}
    (h : ∀ p ∈ ps, c ∉ p) : c ∉ [sep].intercalate ps := by
  induction ps with
  | nil => exact List.not_mem_nil
  | cons p ps ih =>
    obtain ⟨hp, hps⟩ := List.forall_mem_cons.1 h
    cases ps with
    | nil => rwa [List.intercalate_singleton]
    | cons q ps =>
      rw [List.intercalate_cons_cons]
      simp only [List.mem_append, List.mem_singleton, not_or]
      exact ⟨⟨hp, hc⟩, ih hps⟩

/-- The items of comma lists that stand in one line. -/
structure IsItem (s : String) : Prop where
  ne_empty : s ≠ ""
  trimmed : trim s = s
  no_comma : ',' ∉ s.toList
  no_lineFeed : '\n' ∉ s.toList

theorem isItem_iff {s : String} :
    IsItem s ↔ s ≠ "" ∧ trim s = s ∧ ',' ∉ s.toList ∧ '\n' ∉ s.toList :=
  ⟨fun h => ⟨h.1, h.2, h.3, h.4⟩, fun h => ⟨h.1, h.2.1, h.2.2.1, h.2.2.2⟩⟩

instance : DecidablePred IsItem := fun _ => decidable_of_iff _ isItem_iff.symm

namespace IsItem

variable {s t : String}

/-- Two items with a colon between them are one. -/
theorem pair (hs : IsItem s) (ht : IsItem t) : IsItem (s ++ ":" ++ t) := by
  have hchars : (s ++ ":" ++ t).toList = s.toList ++ ':' :: t.toList := toList_between rfl s t
  constructor
  · intro hempty
    have hnil := congrArg String.toList hempty
    rw [hchars] at hnil
    exact List.cons_ne_nil _ _ (List.append_eq_nil_iff.1 hnil).2
  · rw [trim_eq_self_iff, hchars, trimChars_append_cons (by decide),
      trimStart_of_trim hs.trimmed, trimEnd_of_trim ht.trimmed]
  · rw [hchars]
    simp [hs.no_comma, ht.no_comma]
  · rw [hchars]
    simp [hs.no_lineFeed, ht.no_lineFeed]

end IsItem

section Lists

variable {items : List String} (hitems : ∀ s ∈ items, IsItem s)

include hitems

/-- A comma list stands on one line. -/
theorem lineFeed_not_mem_intercalate : '\n' ∉ (",".intercalate items).toList := by
  rw [String.toList_intercalate]
  apply not_mem_intercalate (by decide)
  intro p hp
  obtain ⟨s, hs, rfl⟩ := List.mem_map.1 hp
  exact (hitems s hs).no_lineFeed

/-- A comma list of items has no blanks around it. -/
theorem trim_intercalate : trim (",".intercalate items) = ",".intercalate items := by
  induction items with
  | nil => rfl
  | cons s items ih =>
    obtain ⟨hs, hitems⟩ := List.forall_mem_cons.1 hitems
    cases items with
    | nil => rw [String.intercalate_singleton, hs.trimmed]
    | cons t items =>
      rw [trim_eq_self_iff, String.intercalate_cons_cons, toList_between (c := ',') rfl,
        trimChars_append_cons (by decide), trimStart_of_trim hs.trimmed,
        trimEnd_of_trim (ih hitems)]

/-- The items of a comma list are read back from it. -/
theorem commaList_intercalate : commaList (",".intercalate items) = items := by
  have hfilter : (items.map trim).filter (· ≠ "") = items := by
    rw [List.map_congr_left fun s hs => (hitems s hs).trimmed, List.map_id'']
    · exact List.filter_eq_self.2 fun s hs => decide_eq_true (hitems s hs).ne_empty
    · exact fun _ => rfl
  cases items with
  | nil => rfl
  | cons s items =>
    have hno : ∀ p ∈ (s :: items).map String.toList, ',' ∉ p := by
      intro p hp
      obtain ⟨t, ht, rfl⟩ := List.mem_map.1 hp
      exact (hitems t ht).no_comma
    -- no item has a comma in it, so the cuts are at the commas between items
    have hsplit : splitOn ',' (",".intercalate (s :: items)) = s :: items := by
      rw [splitOn, splitChars_eq_splitOn, String.toList_intercalate]
      rw [show ",".toList = [','] from rfl, List.splitOn_intercalate ',' hno (by simp),
        List.map_map]
      exact (List.map_congr_left fun t _ => String.ofList_toList).trans (List.map_id _)
    rw [commaList, hsplit, hfilter]

end Lists

/-! ### Lines

Both ends of a line are taken, with and without a carriage return; the return is dropped, and would
be trimmed in any case. -/

/-- A line ends at the first line feed. -/
theorem linesFrom_append {l run : List Char} (hl : '\n' ∉ l) (rest : List Char) :
    linesFrom run (l ++ '\n' :: rest) = dropReturn (run.reverse ++ l) :: linesFrom [] rest := by
  induction l generalizing run with
  | nil => rw [List.nil_append, List.append_nil, linesFrom]
  | cons c l ih =>
    obtain ⟨hc, hl⟩ := List.ne_and_not_mem_of_not_mem_cons hl
    rw [List.cons_append, linesFrom, ih hl, List.reverse_cons, List.append_assoc]
    · rfl
    · exact fun heq => hc heq.symm

/-- The carriage return at the end of a line is a blank. -/
theorem trimChars_dropReturn (cs : List Char) : trimChars (dropReturn cs) = trimChars cs := by
  unfold dropReturn
  split
  next r hr =>
    have hcs : cs = r.reverse ++ ['\r'] := by
      rw [← List.reverse_reverse cs, hr, List.reverse_cons]
    rw [hcs, trimChars_append_blank (List.forall_mem_singleton.2 rfl)]
  next => rfl

/-- What ends a line. -/
def IsLineEnd (e : String) : Prop := e = "\n" ∨ e = "\r\n"

/-- The first line of a text is what stands before the first end of a line, blanks aside. -/
theorem exists_lines_append {l e : String} (hl : '\n' ∉ l.toList) (he : IsLineEnd e)
    (rest : String) :
    ∃ first, trim first = trim l ∧ lines (l ++ e ++ rest) = first :: lines rest := by
  obtain ⟨bs, hbs, hno, hchars⟩ :
      ∃ bs, IsBlankText bs ∧ '\n' ∉ bs ∧ e.toList = bs ++ ['\n'] := by
    obtain rfl | rfl := he
    · exact ⟨[], IsBlankText.nil, List.not_mem_nil, rfl⟩
    · exact ⟨['\r'], List.forall_mem_singleton.2 rfl, by decide, rfl⟩
  have hcut : (l ++ e ++ rest).toList = (l.toList ++ bs) ++ '\n' :: rest.toList := by
    simp only [String.toList_append, hchars, List.append_assoc, List.singleton_append]
  have hline : '\n' ∉ l.toList ++ bs := by simp [hl, hno]
  refine ⟨String.ofList (dropReturn (l.toList ++ bs)), ?_, ?_⟩
  · rw [trim, String.toList_ofList, trimChars_dropReturn, trimChars_append_blank hbs]
    rfl
  · rw [lines, hcut, linesFrom_append hline]
    rfl

end TenantGate.Text
