import TenantGate.Text.Blank
/-!
# Cutting a text at a character

`splitOn` cuts at every occurrence of a character, `splitOnce` at the first one. A comma list is
the usual use: trimmed items, the blank ones left out.
-/

namespace TenantGate.Text

/-- Put `c` in front of the first piece. -/
def consToFirst (c : Char) : List (List Char) → List (List Char)
  | [] => [[c]]
  | p :: ps => (c :: p) :: ps

/-- The pieces between the occurrences of `sep`; one more than there are occurrences. -/
def splitChars (sep : Char) : List Char → List (List Char)
  | [] => [[]]
  | c :: cs => if c = sep then [] :: splitChars sep cs else consToFirst c (splitChars sep cs)

/-- The pieces of `s` between the occurrences of `sep`. -/
def splitOn (sep : Char) (s : String) : List String :=
  (splitChars sep s.toList).map String.ofList

/-- What stands before and after the first `sep`, if there is one. -/
def splitOnceChars (sep : Char) : List Char → Option (List Char × List Char)
  | [] => none
  | c :: cs =>
    if c = sep then some ([], cs) else (splitOnceChars sep cs).map fun (a, b) => (c :: a, b)

theorem splitOnceChars_length {sep : Char} {cs a b : List Char}
    (h : splitOnceChars sep cs = some (a, b)) : a.length + b.length + 1 = cs.length := by
  induction cs generalizing a b with
  | nil => simp [splitOnceChars] at h
  | cons c cs ih =>
    rw [splitOnceChars] at h
    split at h
    · simp only [Option.some.injEq, Prod.mk.injEq] at h
      obtain ⟨rfl, rfl⟩ := h
      simp
    · obtain ⟨⟨x, y⟩, hx, he⟩ := Option.map_eq_some_iff.1 h
      simp only [Prod.mk.injEq] at he
      obtain ⟨rfl, rfl⟩ := he
      have := ih hx
      simp only [List.length_cons]
      omega

/-- `s` before and after its first `sep`. -/
def splitOnce (sep : Char) (s : String) : Option (String × String) :=
  (splitOnceChars sep s.toList).map fun (a, b) => (String.ofList a, String.ofList b)

/-- The trimmed items of a comma-separated list, without the blank ones. -/
def commaList (s : String) : List String :=
  ((splitOn ',' s).map trim).filter (· ≠ "")

end TenantGate.Text
