import TenantGate.Query.Basic
/-!
# Segments and calls

An expression is a chain of calls with `->` between them. It is first cut into segments at the
arrows outside single quotes; a segment is then read as a method name and a list of arguments.
-/

namespace TenantGate.Query

open Text

/-! ### Segments -/

/-- Whether a reader that was inside quotes or not still is after `c`. -/
def quotedAfter (quoted : Bool) (c : Char) : Bool := if c = '\'' then !quoted else quoted

/-- Cut at the arrows outside quotes. -/
def cutArrows (quoted : Bool) : List Char → List (List Char)
  | [] => [[]]
  | [c] => [[c]]
  | c :: d :: cs =>
    if !quoted && c = '-' && d = '>' then [] :: cutArrows false cs
    else consToFirst c (cutArrows (quotedAfter quoted c) (d :: cs))

def segments (cs : List Char) : List (List Char) := cutArrows false cs

/-! ### Arguments -/

theorem length_trimStart_le (cs : List Char) : (trimStart cs).length ≤ cs.length :=
  (List.dropWhile_sublist _).length_le

/-- What stands before and after the first `sep`; all of it and nothing if there is none. -/
def cutAt (sep : Char) : List Char → List Char × List Char
  | [] => ([], [])
  | c :: cs =>
    if c = sep then ([], cs)
    else
      let (a, b) := cutAt sep cs
      (c :: a, b)

theorem length_cutAt_lt (sep : Char) (c : Char) (cs : List Char) :
    (cutAt sep (c :: cs)).2.length < (c :: cs).length := by
  induction cs generalizing c with
  | nil => simp only [cutAt]; split <;> simp
  | cons d cs ih =>
    rw [cutAt]
    split
    · simp
    · have := ih d
      simp only [List.length_cons] at *
      omega

/-- What follows a quoted argument and its comma is shorter. -/
theorem length_afterQuote_lt {cs s r t : List Char} {c : Char}
    (h : splitOnceChars '\'' cs = some (s, r)) (h' : trimStart r = c :: t) :
    (trimStart t).length < cs.length + 1 := by
  have h1 := length_trimStart_le t
  have h2 := length_trimStart_le r
  have h3 := splitOnceChars_length h
  simp only [h', List.length_cons] at h2
  omega

/-- What follows a bare argument and its comma is shorter. -/
theorem length_afterToken_lt (c : Char) (cs : List Char) :
    (trimStart (cutAt ',' (c :: cs)).2).length < cs.length + 1 := by
  have h1 := length_trimStart_le (cutAt ',' (c :: cs)).2
  have h2 := length_cutAt_lt ',' c cs
  simp only [List.length_cons] at h2
  omega

/-- A bare token: an integer if it is one, and otherwise a text. -/
def bareLiteral (token : List Char) : Literal :=
  match Number.readInt64? (String.ofList token) with
  | some i => .int i
  | none => .text (String.ofList token)

/-- Read arguments with commas between them. A quoted one ends at the next quote, and only a comma
may follow it; an empty bare one is passed over. -/
def readArgs : List Char → Option (List Literal)
  | [] => some []
  | '\'' :: cs =>
    match h : splitOnceChars '\'' cs with
    | none => none
    | some (s, r) =>
      match h' : trimStart r with
      | [] => some [.text (String.ofList s)]
      | c :: t =>
        if c = ',' then
          have := length_afterQuote_lt h h'
          (readArgs (trimStart t)).map (.text (String.ofList s) :: ·)
        else none
  | c :: cs =>
    let token := trimChars (cutAt ',' (c :: cs)).1
    have := length_afterToken_lt c cs
    let rest := readArgs (trimStart (cutAt ',' (c :: cs)).2)
    if token.isEmpty then rest else rest.map (bareLiteral token :: ·)
termination_by cs => cs.length

/-! ### Calls -/

/-- A method name and its arguments. -/
structure Call where
  method : String
  args : List Literal
  deriving DecidableEq

/-- What stands before and after the last `sep`. -/
def splitLast (sep : Char) (cs : List Char) : Option (List Char × List Char) :=
  (splitOnceChars sep cs.reverse).map fun (a, b) => (b.reverse, a.reverse)

/-- Read a trimmed segment as a call: a name of ASCII letters, and arguments from the first
opening to the last closing parenthesis, after which only blanks may follow. -/
def readCall (segment : List Char) : Option Call := do
  let (name, rest) ← splitOnceChars '(' segment
  let (inner, tail) ← splitLast ')' rest
  if name.isEmpty ∨ !tail.all isBlank then none
  else
    let name := trimChars name
    if name.isEmpty ∨ !name.all Char.isAlpha then none
    else
      let args ← readArgs (trimChars inner)
      return ⟨String.ofList name, args⟩

end TenantGate.Query
