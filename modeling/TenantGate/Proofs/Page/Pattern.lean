import Mathlib.Data.List.Infix
import TenantGate.Page.Statements
/-!
# Patterns of text filters

The server reads a pattern as a list of items: `%` is any text, `_` any one character, and a
backslash takes the character after it as it is. A text filter puts `%` around the text of its
value, but leaves the other two signs in it as they are. So the filter always has a pattern that can
be read, and what it asks for is said by `like_textPattern`: the text itself exactly if neither sign
is in it, and with a backslash at its end a text that ends in `%`.
-/

namespace TenantGate

/-! ### Patterns

Reading a pattern and matching it are kept apart: the signs are gone once the items are there. -/

namespace Sql

/-- A part of a pattern. -/
inductive PatternItem where
  | anyText
  | anyChar
  | char (c : Char)
  deriving DecidableEq

/-- What a character stands for that is not escaped. -/
def PatternItem.ofChar (c : Char) : PatternItem :=
  if c = '%' then .anyText else if c = '_' then .anyChar else .char c

/-- The items of a pattern; there are none if a backslash at the end escapes nothing. -/
def readPattern? : List Char → Option (List PatternItem)
  | [] => some []
  | c :: cs =>
    if c = '\\' then
      match cs with
      | [] => none
      | d :: cs => (readPattern? cs).map (.char d :: ·)
    else (readPattern? cs).map (.ofChar c :: ·)

/-- Whether a text is what the items say. -/
def matchesText : List PatternItem → List Char → Bool
  | [], cs => cs.isEmpty
  | .anyText :: p, cs => cs.tails.any (matchesText p)
  | .anyChar :: p, cs =>
    match cs with
    | [] => false
    | _ :: cs => matchesText p cs
  | .char c :: p, cs =>
    match cs with
    | [] => false
    | d :: cs => d = c && matchesText p cs

/-- Whether a text is like a pattern, if the pattern can be read. -/
def like? (pattern text : String) : Option Bool :=
  (readPattern? pattern.toList).map (matchesText · text.toList)

variable {p q : List PatternItem} {w cs : List Char} {c : Char}

/-! ### Reading patterns

A pattern is read from the left, and only a backslash looks at what comes next. So a pattern that
can be read stays what it is when more follows. -/

theorem readPattern?_escape (d : Char) (cs : List Char) :
    readPattern? ('\\' :: d :: cs) = (readPattern? cs).map (.char d :: ·) := rfl

/-- Without a backslash, one character is one item. -/
theorem readPattern?_cons (hc : c ≠ '\\') (cs : List Char) :
    readPattern? (c :: cs) = (readPattern? cs).map (.ofChar c :: ·) := by
  rw [readPattern?.eq_def]
  exact if_neg hc

/-- A pattern is read on after a part that can be read by itself. -/
theorem readPattern?_append (h : readPattern? w = some p) (cs : List Char) :
    readPattern? (w ++ cs) = (readPattern? cs).map (p ++ ·) := by
  fun_induction readPattern? w generalizing p with
  | case1 =>
    cases h
    simp
  | case2 => cases h
  | case3 d w ih =>
    obtain ⟨p, hp, rfl⟩ := Option.map_eq_some_iff.1 h
    rw [List.cons_append, List.cons_append, readPattern?_escape, ih hp, Option.map_map]
    rfl
  | case4 c w hc ih =>
    obtain ⟨p, hp, rfl⟩ := Option.map_eq_some_iff.1 h
    rw [List.cons_append, readPattern?_cons hc, ih hp, Option.map_map]
    rfl

/-- What is no pattern is one without the backslash at its end. -/
theorem exists_of_readPattern?_eq_none (h : readPattern? w = none) :
    ∃ v p, w = v ++ ['\\'] ∧ readPattern? v = some p := by
  -- The induction follows the reader; it fails at one place only.
  fun_induction readPattern? w with
  | case1 => cases h
  | case2 => exact ⟨[], [], rfl, rfl⟩
  | case3 d w ih =>
    obtain ⟨v, p, rfl, hp⟩ := ih (Option.map_eq_none_iff.1 h)
    refine ⟨'\\' :: d :: v, .char d :: p, rfl, ?_⟩
    rw [readPattern?_escape, hp, Option.map_some]
  | case4 c w hc ih =>
    obtain ⟨v, p, rfl, hp⟩ := ih (Option.map_eq_none_iff.1 h)
    refine ⟨c :: v, .ofChar c :: p, rfl, ?_⟩
    rw [readPattern?_cons hc, hp, Option.map_some]

/-- A text without any of the three signs stands for its own characters. -/
theorem readPattern?_of_plain (hany : '%' ∉ w) (hone : '_' ∉ w) (hescape : '\\' ∉ w) :
    readPattern? w = some (w.map .char) := by
  induction w with
  | nil => rfl
  | cons c w ih =>
    rw [List.mem_cons, not_or] at hany hone hescape
    rw [readPattern?_cons (Ne.symm hescape.1), ih hany.2 hone.2 hescape.2, PatternItem.ofChar,
      if_neg (Ne.symm hany.1), if_neg (Ne.symm hone.1)]
    rfl

/-! ### Matching

What an item covers is said without the search that finds it. Items match a text if it can be cut
into parts that they cover one by one. -/

/-- The texts that an item alone stands for. -/
def PatternItem.Covers : PatternItem → List Char → Prop
  | .anyText, _ => True
  | .anyChar, cs => ∃ c, cs = [c]
  | .char c, cs => cs = [c]

/-- The first item covers a beginning, and the others match the rest. -/
theorem matchesText_cons {item : PatternItem} :
    matchesText (item :: p) cs = true ↔
      ∃ a b, cs = a ++ b ∧ item.Covers a ∧ matchesText p b = true := by
  cases item with
  | anyText =>
    rw [matchesText, List.any_eq_true]
    constructor
    · rintro ⟨b, hb, hp⟩
      obtain ⟨a, ha⟩ := (List.mem_tails b cs).1 hb
      exact ⟨a, b, ha.symm, trivial, hp⟩
    · rintro ⟨a, b, rfl, -, hp⟩
      exact ⟨b, (List.mem_tails b _).2 ⟨a, rfl⟩, hp⟩
  | anyChar =>
    constructor
    · intro h
      cases cs with
      | nil => cases h
      | cons d cs => exact ⟨[d], cs, rfl, ⟨d, rfl⟩, h⟩
    · rintro ⟨_, b, rfl, ⟨d, rfl⟩, hp⟩
      exact hp
  | char c =>
    constructor
    · intro h
      cases cs with
      | nil => cases h
      | cons d cs =>
        obtain ⟨hd, hp⟩ := Bool.and_eq_true_iff.1 h
        exact ⟨[c], cs, by rw [of_decide_eq_true hd]; rfl, rfl, hp⟩
    · rintro ⟨_, b, rfl, rfl, hp⟩
      exact Bool.and_eq_true_iff.2 ⟨decide_eq_true rfl, hp⟩

/-- Items after one another match texts after one another. -/
theorem matchesText_append : matchesText (p ++ q) cs = true ↔
    ∃ a b, cs = a ++ b ∧ matchesText p a = true ∧ matchesText q b = true := by
  -- The induction is on the first items; the cut between the two lists moves along with them.
  induction p generalizing cs with
  | nil =>
    constructor
    · intro h
      exact ⟨[], cs, rfl, rfl, h⟩
    · rintro ⟨a, b, rfl, ha, hb⟩
      rw [List.isEmpty_iff.1 ha]
      exact hb
  | cons item p ih =>
    rw [List.cons_append, matchesText_cons]
    constructor
    · rintro ⟨a, r, rfl, hitem, h⟩
      obtain ⟨b, d, rfl, hp, hq⟩ := ih.1 h
      exact ⟨a ++ b, d, (List.append_assoc _ _ _).symm, matchesText_cons.2 ⟨a, b, rfl, hitem, hp⟩,
        hq⟩
    · rintro ⟨r, d, rfl, h, hq⟩
      obtain ⟨a, b, rfl, hitem, hp⟩ := matchesText_cons.1 h
      exact ⟨a, b ++ d, List.append_assoc _ _ _, hitem, ih.2 ⟨b, d, rfl, hp, hq⟩⟩

/-- A character matches itself alone. -/
theorem matchesText_char : matchesText [.char c] cs = true ↔ cs = [c] := by
  rw [matchesText_cons]
  constructor
  · rintro ⟨_, b, rfl, rfl, hb⟩
    rw [List.isEmpty_iff.1 hb]
    rfl
  · intro h
    exact ⟨[c], [], h, rfl, rfl⟩

/-- Characters match themselves alone. -/
theorem matchesText_map_char : matchesText (w.map .char) cs = true ↔ cs = w := by
  induction w generalizing cs with
  | nil => exact List.isEmpty_iff
  | cons c w ih =>
    rw [List.map_cons, matchesText_cons]
    constructor
    · rintro ⟨_, b, rfl, rfl, hb⟩
      rw [ih.1 hb]
      rfl
    · intro h
      exact ⟨[c], w, h, rfl, ih.2 rfl⟩

/-- Items between two that are any text match somewhere in a text. -/
theorem matchesText_within : matchesText (.anyText :: (p ++ [.anyText])) cs = true ↔
    ∃ a b c, cs = a ++ b ++ c ∧ matchesText p b = true := by
  rw [matchesText_cons]
  constructor
  · rintro ⟨a, r, rfl, -, h⟩
    obtain ⟨b, c, rfl, hp, -⟩ := matchesText_append.1 h
    exact ⟨a, b, c, (List.append_assoc _ _ _).symm, hp⟩
  · rintro ⟨a, b, c, rfl, hp⟩
    have hrest : matchesText [.anyText] c = true :=
      matchesText_cons.2 ⟨c, [], (List.append_nil c).symm, trivial, rfl⟩
    exact ⟨a, b ++ c, List.append_assoc _ _ _, trivial,
      matchesText_append.2 ⟨b, c, rfl, hp, hrest⟩⟩

/-- With a character after them they match before that character at the end of a text. -/
theorem matchesText_before : matchesText (.anyText :: (p ++ [.char c])) cs = true ↔
    ∃ a b, cs = a ++ b ++ [c] ∧ matchesText p b = true := by
  rw [matchesText_cons]
  constructor
  · rintro ⟨a, r, rfl, -, h⟩
    obtain ⟨b, d, rfl, hp, hd⟩ := matchesText_append.1 h
    rw [matchesText_char.1 hd]
    exact ⟨a, b, (List.append_assoc _ _ _).symm, hp⟩
  · rintro ⟨a, b, rfl, hp⟩
    exact ⟨a, b ++ [c], List.append_assoc _ _ _, trivial,
      matchesText_append.2 ⟨b, [c], rfl, hp, matchesText_char.2 rfl⟩⟩

/-! ### A text that items match

To see that a filter looks for more than its text, one text that it finds is enough: the items
themselves, with some character for `_`. -/

/-- A text that the items match, unless they are any text: a percent sign for any character. -/
def sampleText (p : List PatternItem) : List Char :=
  p.map fun
    | .char c => c
    | _ => '%'

/-- The sample is matched. -/
theorem matchesText_sampleText (h : .anyText ∉ p) : matchesText p (sampleText p) = true := by
  induction p with
  | nil => rfl
  | cons item p ih =>
    rw [List.mem_cons, not_or] at h
    have hp := ih h.2
    cases item with
    | anyText => exact absurd rfl h.1
    | anyChar => exact hp
    | char c => exact Bool.and_eq_true_iff.2 ⟨decide_eq_true rfl, hp⟩

/-- Without a percent sign there is no item that stands for any text. -/
theorem anyText_not_mem (h : readPattern? w = some p) (hw : '%' ∉ w) : .anyText ∉ p := by
  fun_induction readPattern? w generalizing p with
  | case1 =>
    cases h
    exact List.not_mem_nil
  | case2 => cases h
  | case3 d w ih =>
    obtain ⟨p, hp, rfl⟩ := Option.map_eq_some_iff.1 h
    simp only [List.mem_cons, not_or] at hw
    simpa using ih hp hw.2.2
  | case4 c w hc ih =>
    obtain ⟨p, hp, rfl⟩ := Option.map_eq_some_iff.1 h
    rw [List.mem_cons, not_or] at hw
    rw [List.mem_cons, not_or]
    refine ⟨?_, ih hp hw.2⟩
    rw [PatternItem.ofChar, if_neg (Ne.symm hw.1)]
    split <;> simp

/-- There are no more items than characters. -/
theorem length_le_of_readPattern? (h : readPattern? w = some p) : p.length ≤ w.length := by
  fun_induction readPattern? w generalizing p with
  | case1 =>
    cases h
    exact Nat.le_refl 0
  | case2 => cases h
  | case3 d w ih =>
    obtain ⟨p, hp, rfl⟩ := Option.map_eq_some_iff.1 h
    have hlength := ih hp
    simp only [List.length_cons]
    omega
  | case4 c w hc ih =>
    obtain ⟨p, hp, rfl⟩ := Option.map_eq_some_iff.1 h
    exact Nat.succ_le_succ (ih hp)

/-- Only a text without the three signs is the sample of its own pattern. -/
theorem plain_of_sampleText (h : readPattern? w = some p) (hw : '%' ∉ w)
    (hsample : sampleText p = w) : '_' ∉ w ∧ '\\' ∉ w := by
  -- The induction follows the reader. An escaped character makes the sample shorter, and an
  -- underscore makes it differ.
  fun_induction readPattern? w generalizing p with
  | case1 => exact ⟨List.not_mem_nil, List.not_mem_nil⟩
  | case2 => cases h
  | case3 d w ih =>
    obtain ⟨p, hp, rfl⟩ := Option.map_eq_some_iff.1 h
    -- the sample is shorter by the backslash
    have hlength := congrArg List.length hsample
    have hle := length_le_of_readPattern? hp
    simp only [sampleText, List.map_cons, List.length_cons, List.length_map] at hlength
    omega
  | case4 c w hc ih =>
    obtain ⟨p, hp, rfl⟩ := Option.map_eq_some_iff.1 h
    rw [List.mem_cons, not_or] at hw
    obtain ⟨hhead, hrest⟩ := List.cons.inj hsample
    obtain ⟨hone, hescape⟩ := ih hp hw.2 hrest
    have hc' : c ≠ '_' := by
      rintro rfl
      exact hw.1 hhead
    simp [hone, hescape, Ne.symm hc, Ne.symm hc']

end Sql

/-! ### Text filters

The pattern of a filter is the text between two percent signs. Whether the second one counts as a
sign depends on a backslash before it. -/

namespace Page

open Sql

/-- The text that a filter is given: that of a JSON text, or any other value as it is written. -/
def sought : Json → String
  | .string s => s
  | v => v.text

/-- The characters of the pattern. -/
theorem toList_textPattern {v : Json} (h : '%' ∉ (sought v).toList) :
    (textPattern v).toList = '%' :: ((sought v).toList ++ ['%']) := by
  have hpattern : textPattern v =
      if (sought v).toList.contains '%' then sought v else "%" ++ sought v ++ "%" := by
    cases v <;> rfl
  rw [hpattern, if_neg (by simpa using h)]
  simp

/-- The items of a filter's pattern: any text, those of a beginning of the text that is sought, and
those of what is left of it with the sign after it. -/
theorem readPattern?_textPattern {v : Json} {w r : List Char} {p : List PatternItem}
    (h : '%' ∉ (sought v).toList) (hv : (sought v).toList = w ++ r) (hw : readPattern? w = some p) :
    readPattern? (textPattern v).toList =
      (readPattern? (r ++ ['%'])).map fun q => .anyText :: (p ++ q) := by
  rw [toList_textPattern h, hv, List.append_assoc, readPattern?_cons (by decide),
    readPattern?_append hw, Option.map_map]
  rfl

variable {v : Json} {p : List PatternItem} (h : '%' ∉ (sought v).toList)

include h

/-- A text that can be read as a pattern is looked for as one. -/
theorem like?_textPattern (hp : readPattern? (sought v).toList = some p) (text : String) :
    like? (textPattern v) text =
      some (matchesText (.anyText :: (p ++ [.anyText])) text.toList) := by
  rw [like?, readPattern?_textPattern h (List.append_nil _).symm hp]
  rfl

/-- A backslash at the end takes the sign after the text as it is. -/
theorem like?_textPattern_escape {w : List Char} (hv : (sought v).toList = w ++ ['\\'])
    (hp : readPattern? w = some p) (text : String) :
    like? (textPattern v) text =
      some (matchesText (.anyText :: (p ++ [.char '%'])) text.toList) := by
  rw [like?, readPattern?_textPattern h hv hp]
  rfl

/-- A filter that looks for its text alone has neither of the two signs in it. -/
theorem plain_of_like_iff
    (hlike : ∀ text, like? (textPattern v) text = some true → (sought v).toList <:+: text.toList) :
    '_' ∉ (sought v).toList ∧ '\\' ∉ (sought v).toList := by
  -- The sample is found, so the text is in it; and as it is no longer, it is the text.
  cases hread : readPattern? (sought v).toList with
  | some p =>
    have hmatch : matchesText (.anyText :: (p ++ [.anyText])) (sampleText p) = true := by
      apply matchesText_within.2
      exact ⟨[], sampleText p, [], by simp, matchesText_sampleText (anyText_not_mem hread h)⟩
    have hfound : (sought v).toList <:+: sampleText p := by
      have hsample := hlike (String.ofList (sampleText p))
      rw [like?_textPattern h hread, String.toList_ofList] at hsample
      exact hsample (congrArg some hmatch)
    have hlength : (sampleText p).length ≤ (sought v).toList.length := by
      rw [sampleText, List.length_map]
      exact length_le_of_readPattern? hread
    exact plain_of_sampleText hread h (hfound.eq_of_length_le hlength).symm
  | none =>
    obtain ⟨w, p, hv, hp⟩ := exists_of_readPattern?_eq_none hread
    have hw : '%' ∉ w := by
      intro hmem
      apply h
      rw [hv]
      exact List.mem_append_left _ hmem
    have hmatch : matchesText (.anyText :: (p ++ [.char '%'])) (sampleText p ++ ['%']) = true := by
      apply matchesText_before.2
      exact ⟨[], sampleText p, rfl, matchesText_sampleText (anyText_not_mem hp hw)⟩
    have hfound : (sought v).toList <:+: sampleText p ++ ['%'] := by
      have hsample := hlike (String.ofList (sampleText p ++ ['%']))
      rw [like?_textPattern_escape h hv hp, String.toList_ofList] at hsample
      exact hsample (congrArg some hmatch)
    have hlength : (sampleText p ++ ['%']).length ≤ (sought v).toList.length := by
      rw [hv, List.length_append, List.length_append, sampleText, List.length_map]
      exact Nat.succ_le_succ (length_le_of_readPattern? hp)
    -- the one ends in a backslash, the other in a percent sign
    have heq := hfound.eq_of_length_le hlength
    rw [hv] at heq
    exact absurd (List.append_singleton_inj.1 heq).2 (by decide)

/-- What a text filter asks for, if its text has no percent sign. Its pattern can always be read. It
looks for the text itself exactly if there is neither an underscore nor a backslash in it; in
general it looks for what the text stands for as a pattern or, if a backslash is left over at the
end, for texts that end in that and a percent sign. -/
theorem like_textPattern :
    (∀ text, (like? (textPattern v) text).isSome = true) ∧
    ((∀ text, like? (textPattern v) text = some true ↔ (sought v).toList <:+: text.toList) ↔
      '_' ∉ (sought v).toList ∧ '\\' ∉ (sought v).toList) ∧
    (∀ p, readPattern? (sought v).toList = some p → ∀ text,
      like? (textPattern v) text = some true ↔
        ∃ a b c, text.toList = a ++ b ++ c ∧ matchesText p b = true) ∧
    ∀ w p, (sought v).toList = w ++ ['\\'] → readPattern? w = some p → ∀ text,
      like? (textPattern v) text = some true ↔
        ∃ a b, text.toList = a ++ b ++ ['%'] ∧ matchesText p b = true := by
  have hwithin : ∀ p, readPattern? (sought v).toList = some p → ∀ text,
      like? (textPattern v) text = some true ↔
        ∃ a b c, text.toList = a ++ b ++ c ∧ matchesText p b = true := by
    intro p hp text
    rw [like?_textPattern h hp, Option.some.injEq]
    exact matchesText_within
  refine ⟨?_, ⟨?_, ?_⟩, hwithin, ?_⟩
  · intro text
    cases hread : readPattern? (sought v).toList with
    | some p =>
      rw [like?_textPattern h hread]
      rfl
    | none =>
      obtain ⟨w, p, hv, hp⟩ := exists_of_readPattern?_eq_none hread
      rw [like?_textPattern_escape h hv hp]
      rfl
  · intro hlike
    exact plain_of_like_iff h fun text => (hlike text).1
  · rintro ⟨hone, hescape⟩ text
    rw [hwithin _ (readPattern?_of_plain h hone hescape)]
    constructor
    · rintro ⟨a, b, c, htext, hb⟩
      rw [matchesText_map_char.1 hb] at htext
      exact ⟨a, c, htext.symm⟩
    · rintro ⟨a, c, htext⟩
      exact ⟨a, _, c, htext.symm, matchesText_map_char.2 rfl⟩
  · intro w p hv hp text
    rw [like?_textPattern_escape h hv hp, Option.some.injEq]
    exact matchesText_before

omit h

/-- The underscore stands for any character, and of two backslashes one is left. -/
theorem like_textPattern_signs :
    let v : Json := .string "a_\\\\b"
    '%' ∉ (sought v).toList ∧ textPattern v = "%a_\\\\b%" ∧
      like? (textPattern v) "(ax\\b)" = some true ∧
      ¬ ∀ text, like? (textPattern v) text = some true ↔ (sought v).toList <:+: text.toList := by
  intro v
  have hnone : '%' ∉ (sought v).toList := by decide
  obtain ⟨-, hplain, hwithin, -⟩ := like_textPattern hnone
  have hread : readPattern? (sought v).toList =
      some [.char 'a', .anyChar, .char '\\', .char 'b'] := by decide
  refine ⟨hnone, by decide, ?_, ?_⟩
  · exact (hwithin _ hread _).2 ⟨['('], ['a', 'x', '\\', 'b'], [')'], by decide, by decide⟩
  · intro hlike
    exact (hplain.1 hlike).1 (by decide)

/-- A filter for `a_b` finds a text that does not contain it, and one for a backslash does not find
the backslash. -/
theorem like_textPattern_not_contained :
    ('%' ∉ (sought (.string "a_b")).toList ∧ like? (textPattern (.string "a_b")) "axb" = some true ∧
      ¬ (sought (.string "a_b")).toList <:+: "axb".toList) ∧
    '%' ∉ (sought (.string "\\")).toList ∧ like? (textPattern (.string "\\")) "a\\b" = some false ∧
      (sought (.string "\\")).toList <:+: "a\\b".toList :=
  ⟨⟨by decide, by decide, by decide⟩, by decide, by decide, by decide⟩

end Page
end TenantGate
