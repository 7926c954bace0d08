import Mathlib.Data.List.DropRight
import TenantGate.Text.Split
/-!
# Trimming, cutting and words

A text is its trimmed part with blanks around it (`exists_trimChars`), and what is written without
blanks at its ends is found again in the midst of blanks (`trimChars_between`). The cuts at a
character are characterized by where that character does not occur, and texts without blanks are the
words of what they are written into.
-/

namespace TenantGate.Text

/-- A text of blanks only. -/
def IsBlankText (cs : List Char) : Prop := ∀ c ∈ cs, isBlank c = true

theorem IsBlankText.nil : IsBlankText [] := by simp [IsBlankText]

theorem IsBlankText.append {cs ds : List Char} (hc : IsBlankText cs) (hd : IsBlankText ds) :
    IsBlankText (cs ++ ds) :=
  List.forall_mem_append.2 ⟨hc, hd⟩

/-- What is no blank does not stand among blanks. -/
theorem IsBlankText.not_mem {cs : List Char} {c : Char} (h : IsBlankText cs)
    (hc : isBlank c = false) : c ∉ cs := by
  intro hmem
  rw [h c hmem] at hc
  exact Bool.noConfusion hc

/-- The visible characters of ASCII are not blanks. -/
theorem not_blank_of_ascii {c : Char} (hleast : 33 ≤ c.toNat) (hgreatest : c.toNat ≤ 126) :
    isBlank c = false := by
  simp only [isBlank, Bool.or_eq_false_iff, Bool.and_eq_false_iff, decide_eq_false_iff_not,
    beq_eq_false_iff_ne]
  omega

/-- A range of visible characters of ASCII holds no blank. -/
theorem not_blank_of_between {a b c : Char} (ha : 33 ≤ a.toNat) (hb : b.toNat ≤ 126)
    (h : a.val ≤ c.val ∧ c.val ≤ b.val) : isBlank c = false :=
  not_blank_of_ascii (Nat.le_trans ha (UInt32.le_iff_toNat_le.1 h.1))
    (Nat.le_trans (UInt32.le_iff_toNat_le.1 h.2) hb)

/-- A digit is no blank. -/
theorem not_blank_of_isDigit {c : Char} (h : c.isDigit = true) : isBlank c = false := by
  obtain ⟨hleast, hgreatest⟩ := Bool.and_eq_true_iff.1 h
  exact not_blank_of_between (a := '0') (b := '9') (by decide) (by decide)
    ⟨of_decide_eq_true hleast, of_decide_eq_true hgreatest⟩

/-- A letter is no blank. -/
theorem not_blank_of_isAlpha {c : Char} (h : c.isAlpha = true) : isBlank c = false := by
  obtain hupper | hlower : c.isUpper = true ∨ c.isLower = true := Bool.or_eq_true_iff.1 h
  · exact not_blank_of_between (a := 'A') (b := 'Z') (by decide) (by decide)
      (of_decide_eq_true hupper)
  · obtain ⟨hleast, hgreatest⟩ := Bool.and_eq_true_iff.1 hlower
    exact not_blank_of_between (a := 'a') (b := 'z') (by decide) (by decide)
      ⟨of_decide_eq_true hleast, of_decide_eq_true hgreatest⟩

/-- Blanks at the end of a text add no other character to it. -/
theorem not_mem_append_blank {cs bs : List Char} {c : Char} (hcs : c ∉ cs) (hbs : IsBlankText bs)
    (hc : isBlank c = false) : c ∉ cs ++ bs := by
  rw [List.mem_append, not_or]
  exact ⟨hcs, hbs.not_mem hc⟩

theorem isBlankText_iff {cs : List Char} : IsBlankText cs ↔ cs.all isBlank = true :=
  List.all_eq_true.symm

/-! ### Trimming

Each end of a text is trimmed by itself. First what trimming does at one end, then what follows for
both: a text that neither begins nor ends with a blank is its own trimmed form, and any other has
such a text in it. -/

/-- Blanks at the start are taken away. -/
theorem trimStart_blank_append {bs cs : List Char} (h : IsBlankText bs) :
    trimStart (bs ++ cs) = trimStart cs :=
  List.dropWhile_append_of_pos h

/-- So are blanks at the end. -/
theorem trimEnd_append_blank {bs cs : List Char} (h : IsBlankText bs) :
    trimEnd (cs ++ bs) = trimEnd cs := by
  have hrev : IsBlankText bs.reverse := fun c hc => h c (List.mem_reverse.1 hc)
  rw [trimEnd, List.reverse_append]
  exact congrArg List.reverse (trimStart_blank_append hrev)

theorem trimStart_eq_nil_iff {cs : List Char} : trimStart cs = [] ↔ IsBlankText cs :=
  List.dropWhile_eq_nil_iff

/-- A text that begins with a visible character is left as it is. -/
theorem trimStart_cons_of_not_blank {c : Char} {cs : List Char} (h : isBlank c = false) :
    trimStart (c :: cs) = c :: cs :=
  List.dropWhile_cons_of_neg (by simp [h])

/-- Conversely, a text that is left as it is begins with a visible character. -/
theorem not_blank_of_trimStart {c : Char} {cs : List Char} (h : trimStart (c :: cs) = c :: cs) :
    isBlank c = false := by
  have hfirst := List.dropWhile_eq_self_iff.1 h (Nat.succ_pos _)
  simpa using hfirst

theorem trimEnd_concat_of_not_blank {c : Char} {cs : List Char} (h : isBlank c = false) :
    trimEnd (cs ++ [c]) = cs ++ [c] :=
  List.rdropWhile_concat_neg isBlank cs c (by simp [h])

/-- What trimming the start of a text takes away. -/
theorem exists_trimStart (cs : List Char) : ∃ bs, IsBlankText bs ∧ cs = bs ++ trimStart cs :=
  ⟨cs.takeWhile isBlank, fun _ hc => List.mem_takeWhile_imp hc,
    (List.takeWhile_append_dropWhile).symm⟩

/-- What trimming the end of a text takes away. -/
theorem exists_trimEnd (cs : List Char) : ∃ bs, IsBlankText bs ∧ cs = trimEnd cs ++ bs := by
  obtain ⟨bs, hbs, hcs⟩ := exists_trimStart cs.reverse
  refine ⟨bs.reverse, fun c hc => hbs c (List.mem_reverse.1 hc), ?_⟩
  have h := congrArg List.reverse hcs
  rwa [List.reverse_reverse, List.reverse_append] at h

/-- A text is its trimmed part between blanks. -/
theorem exists_trimChars (cs : List Char) :
    ∃ bs bs', IsBlankText bs ∧ IsBlankText bs' ∧ cs = bs ++ trimChars cs ++ bs' := by
  obtain ⟨bs, hbs, hstart⟩ := exists_trimStart cs
  obtain ⟨bs', hbs', hend⟩ := exists_trimEnd (trimStart cs)
  refine ⟨bs, bs', hbs, hbs', ?_⟩
  rw [trimChars, List.append_assoc, ← hend, ← hstart]

/-- A beginning of a text that does not begin with a blank does not either. -/
theorem trimStart_of_isPrefix {cs ps : List Char} (hps : ps <+: cs) (hcs : trimStart cs = cs) :
    trimStart ps = ps := by
  obtain ⟨rest, rfl⟩ := hps
  cases ps with
  | nil => rfl
  | cons c ps => exact trimStart_cons_of_not_blank (not_blank_of_trimStart hcs)

theorem trimChars_eq_self {cs : List Char} (hstart : trimStart cs = cs) (hend : trimEnd cs = cs) :
    trimChars cs = cs := by
  rw [trimChars, hstart, hend]

/-- Only the last character decides whether the end is left alone. -/
theorem trimEnd_eq_self_of_getLast? {cs : List Char} (h : ∀ c ∈ cs.getLast?, isBlank c = false) :
    trimEnd cs = cs := by
  cases cs using List.reverseRecOn with
  | nil => rfl
  | append_singleton cs c => exact trimEnd_concat_of_not_blank (h c (by simp))

/-- A text is trimmed if its first and its last character are not blanks. -/
theorem trimChars_eq_self_of_ends {cs : List Char}
    (hfirst : ∀ c ∈ cs.head?, isBlank c = false) (hlast : ∀ c ∈ cs.getLast?, isBlank c = false) :
    trimChars cs = cs :=
  trimChars_eq_self (trimStart_eq_self_of_head? hfirst) (trimEnd_eq_self_of_getLast? hlast)

theorem trim_of_visible {s : String} (h : ∀ c ∈ s.toList, isBlank c = false) : trim s = s := by
  rw [trim, trimChars_eq_self_of_ends (fun c hc => h c (List.mem_of_mem_head? hc))
    (fun c hc => h c (List.mem_of_mem_getLast? hc)), String.ofList_toList]

/-- A text with a visible beginning and a visible end is trimmed. -/
theorem trimChars_eq_self_of_visible {cs a b : List Char} (ha : a <+: cs) (hb : b <:+ cs)
    (hane : a ≠ []) (hbne : b ≠ []) (havisible : ∀ c ∈ a, isBlank c = false)
    (hbvisible : ∀ c ∈ b, isBlank c = false) : trimChars cs = cs := by
  apply trimChars_eq_self_of_ends
  · obtain ⟨r, rfl⟩ := ha
    intro c hc
    rw [List.head?_append_of_ne_nil _ hane] at hc
    exact havisible c (List.mem_of_head? hc)
  · obtain ⟨r, rfl⟩ := hb
    intro c hc
    rw [List.getLast?_append_of_ne_nil _ hbne] at hc
    exact hbvisible c (List.mem_of_getLast? hc)

/-- Blanks around a text without blanks at its ends are what is trimmed. -/
theorem trimChars_between {bs cs bs' : List Char} (hbs : IsBlankText bs) (hbs' : IsBlankText bs')
    (hcs : trimChars cs = cs) : trimChars (bs ++ cs ++ bs') = cs := by
  have hstart : trimStart cs = cs := by rw [← hcs, trimStart_trimChars]
  rw [List.append_assoc, trimChars, trimStart_blank_append hbs]
  cases cs with
  | nil =>
    rw [List.nil_append, trimStart_eq_nil_iff.2 hbs']
    rfl
  | cons c cs =>
    rw [List.cons_append, trimStart_cons_of_not_blank (not_blank_of_trimStart hstart),
      ← List.cons_append, trimEnd_append_blank hbs']
    rwa [trimChars, hstart] at hcs

/-- Trimmed, exactly the blank texts are empty. -/
theorem trimChars_eq_nil_iff {cs : List Char} : trimChars cs = [] ↔ IsBlankText cs := by
  constructor
  · intro h
    obtain ⟨bs, bs', hbs, hbs', hcs⟩ := exists_trimChars cs
    rw [hcs, h, List.append_nil]
    exact hbs.append hbs'
  · intro h
    rw [trimChars, trimStart_eq_nil_iff.2 h]
    rfl

theorem trim_eq_empty_iff {s : String} : trim s = "" ↔ IsBlankText s.toList := by
  rw [← trimChars_eq_nil_iff, trim, String.ofList_eq_empty_iff]

/-! ### Cutting

A text is cut at its first separator; the two sides determine the text, and it them. -/

/-- Cut at the first separator: what stands before it is free of separators. -/
theorem splitOnceChars_eq_some_iff {sep : Char} {cs a b : List Char} :
    splitOnceChars sep cs = some (a, b) ↔ cs = a ++ sep :: b ∧ sep ∉ a := by
  -- The induction is on the text; the part before the separator grows by each character that is
  -- none.
  induction cs generalizing a with
  | nil => simp [splitOnceChars]
  | cons c cs ih =>
    rw [splitOnceChars]
    split
    next hc =>
      cases a with
      | nil => simp [hc]
      | cons d a =>
        constructor
        · simp
        · rintro ⟨hcs, hsep⟩
          exact absurd ((List.cons.inj hcs).1.symm.trans hc)
            fun hd => hsep (hd ▸ List.mem_cons_self)
    next hc =>
      simp only [Option.map_eq_some_iff, Prod.exists, Prod.mk.injEq]
      constructor
      · rintro ⟨a', b', hcut, rfl, rfl⟩
        obtain ⟨rfl, hsep⟩ := ih.1 hcut
        exact ⟨rfl, by simpa [hsep] using Ne.symm hc⟩
      · rintro ⟨hcs, hsep⟩
        cases a with
        | nil => exact absurd (List.cons.inj hcs).1 hc
        | cons d a =>
          obtain ⟨rfl, rfl⟩ := List.cons.inj hcs
          exact ⟨a, b, ih.2 ⟨rfl, fun h => hsep (List.mem_cons_of_mem _ h)⟩, rfl, rfl⟩

/-- The cut at the first separator, made. -/
theorem splitOnceChars_append {sep : Char} {a : List Char} (h : sep ∉ a) (b : List Char) :
    splitOnceChars sep (a ++ sep :: b) = some (a, b) :=
  splitOnceChars_eq_some_iff.2 ⟨rfl, h⟩

/-- Every text either has no separator, or is cut at its first one. -/
theorem not_mem_or_exists_append (sep : Char) (cs : List Char) :
    sep ∉ cs ∨ ∃ a b, cs = a ++ sep :: b ∧ sep ∉ a := by
  by_cases h : sep ∈ cs
  · exact .inr (List.eq_append_cons_of_mem h)
  · exact .inl h

/-! ### Words

A word is collected backwards, character by character, and ends at a blank. -/

section Words

variable {w cs run : List Char} (hw : ∀ c ∈ w, isBlank c = false)

include hw

/-- Visible characters join the word that is being read. -/
theorem wordsFrom_append : wordsFrom run (w ++ cs) = wordsFrom (w.reverse ++ run) cs := by
  induction w generalizing run with
  | nil => rfl
  | cons c w ih =>
    rw [List.forall_mem_cons] at hw
    rw [List.cons_append, wordsFrom, if_neg (by simp [hw.1]), ih hw.2, List.reverse_cons,
      List.append_assoc]
    rfl

/-- A text without blanks is a word. -/
theorem wordsFrom_word (hne : w ≠ []) : wordsFrom [] w = [w] := by
  have h : wordsFrom [] (w ++ []) = wordsFrom (w.reverse ++ []) [] := wordsFrom_append hw
  rw [List.append_nil, List.append_nil] at h
  rw [h, wordsFrom, if_neg (by simpa using hne), List.reverse_reverse]

/-- A text without blanks and a blank after it are a word and the end of it. -/
theorem wordsFrom_word_blank (hne : w ≠ []) {b : Char} (hb : isBlank b = true) :
    wordsFrom [] (w ++ b :: cs) = w :: wordsFrom [] cs := by
  rw [wordsFrom_append hw, List.append_nil, wordsFrom, if_pos hb, if_neg (by simpa using hne),
    List.reverse_reverse]

end Words

end TenantGate.Text
