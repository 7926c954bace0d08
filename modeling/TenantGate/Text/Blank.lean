/-!
# Blank characters and what is cut along them

`isBlank` is the Unicode property `White_Space`. Trimming removes blanks at both ends of a text,
`words` cuts a text into its maximal blank-free runs, and `lines` cuts it at line feeds, with one
carriage return before a line feed counted as part of the break.
-/

namespace TenantGate.Text

/-- The characters with the Unicode property `White_Space`. -/
def isBlank (c : Char) : Bool :=
  let n := c.toNat
  (0x09 ≤ n && n ≤ 0x0D) || n == 0x20 || n == 0x85 || n == 0xA0 || n == 0x1680
    || (0x2000 ≤ n && n ≤ 0x200A) || n == 0x2028 || n == 0x2029 || n == 0x202F
    || n == 0x205F || n == 0x3000

/-! ### Trimming -/

def trimStart (cs : List Char) : List Char := cs.dropWhile isBlank

def trimEnd (cs : List Char) : List Char := (cs.reverse.dropWhile isBlank).reverse

def trimChars (cs : List Char) : List Char := trimEnd (trimStart cs)

/-- `s` without the blanks at its ends. -/
def trim (s : String) : String := String.ofList (trimChars s.toList)

/-- What is left of a text after its start is trimmed does not begin with a blank. -/
theorem not_blank_of_mem_head?_trimStart {cs : List Char} {c : Char}
    (h : c ∈ (trimStart cs).head?) : isBlank c = false := by
  have hfirst := List.head?_dropWhile_not isBlank cs
  rw [← trimStart, Option.mem_def.1 h] at hfirst
  exact hfirst

/-- A text that does not begin with a blank stays as it is when its start is trimmed. -/
theorem trimStart_eq_self_of_head? {cs : List Char} (h : ∀ c ∈ cs.head?, isBlank c = false) :
    trimStart cs = cs := by
  cases cs with
  | nil => rfl
  | cons c cs => exact List.dropWhile_cons_of_neg (by simp [h c rfl])

theorem trimStart_trimStart (cs : List Char) : trimStart (trimStart cs) = trimStart cs :=
  trimStart_eq_self_of_head? fun _ => not_blank_of_mem_head?_trimStart

theorem trimEnd_trimEnd (cs : List Char) : trimEnd (trimEnd cs) = trimEnd cs := by
  show (trimStart (trimStart cs.reverse).reverse.reverse).reverse = _
  rw [List.reverse_reverse, trimStart_trimStart]
  rfl

theorem trimEnd_isPrefix (cs : List Char) : trimEnd cs <+: cs := by
  have hsuffix : cs.reverse.dropWhile isBlank <:+ cs.reverse := List.dropWhile_suffix _
  simpa [trimEnd] using List.reverse_prefix.2 hsuffix

/-- What is trimmed at its end begins like the whole, and so with no blank. -/
theorem trimStart_trimChars (cs : List Char) : trimStart (trimChars cs) = trimChars cs := by
  apply trimStart_eq_self_of_head?
  intro c hc
  obtain ⟨rest, hrest⟩ := trimEnd_isPrefix (trimStart cs)
  refine not_blank_of_mem_head?_trimStart (?_ : c ∈ (trimStart cs).head?)
  rw [← hrest, List.head?_append, ← trimChars, Option.mem_def.1 hc]
  rfl

theorem trimChars_trimChars (cs : List Char) : trimChars (trimChars cs) = trimChars cs := by
  rw [trimChars, trimStart_trimChars]
  exact trimEnd_trimEnd _

@[simp] theorem trim_trim (s : String) : trim (trim s) = trim s := by
  simp [trim, trimChars_trimChars]

/-! ### Words -/

/-- Cut into maximal blank-free runs; `run` is the run being read, last character first. -/
def wordsFrom (run : List Char) : List Char → List (List Char)
  | [] => if run.isEmpty then [] else [run.reverse]
  | c :: cs =>
    if isBlank c then
      if run.isEmpty then wordsFrom [] cs else run.reverse :: wordsFrom [] cs
    else wordsFrom (c :: run) cs

/-- The maximal blank-free runs of `s`, in order. -/
def words (s : String) : List String := (wordsFrom [] s.toList).map String.ofList

/-! ### Lines -/

def dropReturn (cs : List Char) : List Char :=
  match cs.reverse with
  | '\r' :: r => r.reverse
  | _ => cs

/-- Cut at line feeds; a text that ends in a line feed has no further empty line. -/
def linesFrom (run : List Char) : List Char → List (List Char)
  | [] => if run.isEmpty then [] else [run.reverse]
  | '\n' :: cs => dropReturn run.reverse :: linesFrom [] cs
  | c :: cs => linesFrom (c :: run) cs

/-- The lines of `s`, without their line breaks. -/
def lines (s : String) : List String := (linesFrom [] s.toList).map String.ofList

end TenantGate.Text
