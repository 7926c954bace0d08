import TenantGate.Text.Alphanumeric
import TenantGate.Text.Blank
/-!
# Environment files

An environment file is first cut into entries and then each entry is read. An entry is a line, or
several where a quote is left open at the end of a line; a number sign after a blank begins a
comment. An entry assigns a value to a key. In the value, single quotes keep every character, a
backslash escapes outside them, and a dollar sign refers to a value known already. Reading stops
at the first entry that is malformed and keeps what came before. Where a key is assigned more than
once the first assignment counts, and the environment counts before the file.
-/

namespace TenantGate.EnvFile

/-! ### Entries -/

/-- Where a reader stands that looks for the end of an entry. -/
inductive Mark where
  | plain
  /-- After a blank, where a number sign begins a comment. -/
  | blank
  | escape
  /-- Inside quotes, which are double or single ones. -/
  | quoted (double : Bool)
  | quotedEscape (double : Bool)
  deriving DecidableEq

namespace Mark

/-- The mark after a character outside quotes. A second blank is as good as no blank. -/
def ofPlain (afterBlank : Bool) (c : Char) : Mark :=
  if c = '\\' then .escape
  else if c = '"' then .quoted true
  else if c = '\'' then .quoted false
  else if !afterBlank && Text.isBlank c && c != '\n' && c != '\r' then .blank
  else .plain

/-- The mark after a character; none where a comment begins. -/
def after : Mark → Char → Option Mark
  | plain, c => some (ofPlain false c)
  | blank, c => if c = '#' then none else some (ofPlain true c)
  | escape, _ => some plain
  | quoted double, c =>
    some (if c = '\\' then quotedEscape double
      else if c = (if double then '"' else '\'') then plain
      else quoted double)
  | quotedEscape double, _ => some (quoted double)

end Mark

/-- Drop the rest of a line and its line feed. -/
def dropLine : List Char → List Char
  | [] => []
  | c :: cs => if c = '\n' then cs else dropLine cs

theorem length_dropLine_le (cs : List Char) : (dropLine cs).length ≤ cs.length := by
  induction cs with
  | nil => simp [dropLine]
  | cons c cs ih =>
    rw [dropLine, List.length_cons]
    split <;> omega

/-- The entry at the beginning of a text, without its comment, and what follows it; none if the
text ends in the middle of one. A blank at the very end leaves the entry unfinished, too. -/
def takeEntry (m : Mark) : List Char → Option (List Char × List Char)
  | [] => if m = .plain then some ([], []) else none
  | c :: cs =>
    match m.after c with
    | none => some ([], dropLine cs)
    | some m =>
      if c = '\n' ∧ m = .plain then some ([], cs)
      else (takeEntry m cs).map fun (entry, rest) => (c :: entry, rest)

theorem length_takeEntry_le {m : Mark} {cs entry rest : List Char}
    (h : takeEntry m cs = some (entry, rest)) : rest.length ≤ cs.length := by
  induction cs generalizing m entry with
  | nil =>
    rw [takeEntry] at h
    split at h
    · simp only [Option.some.injEq, Prod.mk.injEq] at h
      simp [← h.2]
    · cases h
  | cons c cs ih =>
    rw [takeEntry] at h
    split at h
    · obtain ⟨-, rfl⟩ := Prod.mk.injEq .. ▸ Option.some.inj h
      have := length_dropLine_le cs
      simp only [List.length_cons]
      omega
    · split at h
      · simp only [Option.some.injEq, Prod.mk.injEq] at h
        simp [← h.2]
      · obtain ⟨⟨e, r⟩, hr, he⟩ := Option.map_eq_some_iff.1 h
        obtain ⟨-, rfl⟩ := Prod.mk.injEq .. ▸ he
        have := ih hr
        simp only [List.length_cons]
        omega

theorem length_takeEntry_lt {c : Char} {cs entry rest : List Char}
    (h : takeEntry .plain (c :: cs) = some (entry, rest)) : rest.length < (c :: cs).length := by
  rw [takeEntry] at h
  simp only [Mark.after] at h
  split at h
  · simp only [Option.some.injEq, Prod.mk.injEq] at h
    simp [← h.2]
  · obtain ⟨⟨e, r⟩, hr, he⟩ := Option.map_eq_some_iff.1 h
    simp only [Prod.mk.injEq] at he
    have := length_takeEntry_le hr
    simp only [← he.2, List.length_cons]
    omega

/-- The entries of a text up to the first unfinished one. A line that is all comment is an empty
entry, whatever quotes it holds. -/
def entries : List Char → List (List Char)
  | [] => []
  | c :: cs =>
    if (Text.trimStart ((c :: cs).takeWhile (· ≠ '\n'))).head? = some '#' then
      have : (dropLine (c :: cs)).length < cs.length + 1 := by
        rw [dropLine]
        split
        · omega
        · have := length_dropLine_le cs
          omega
      [] :: entries (dropLine (c :: cs))
    else
      match h : takeEntry .plain (c :: cs) with
      | none => []
      | some (entry, rest) =>
        have : rest.length < cs.length + 1 := length_takeEntry_lt h
        entry :: entries rest
termination_by cs => cs.length

/-! ### Keys -/

def isKeyStart (c : Char) : Bool := c.isAlpha || c = '_'

def isKeyPart (c : Char) : Bool := c.isAlphanum || c = '_' || c = '.'

/-- The key at the beginning, without the blanks after it. -/
def readKey : List Char → Option (List Char × List Char)
  | [] => none
  | c :: cs =>
    if isKeyStart c then
      some (c :: cs.takeWhile isKeyPart, Text.trimStart (cs.dropWhile isKeyPart))
    else none

/-- The key of an assignment and what follows its equals sign; `export` may stand before the key.
-/
def readAssigned (cs : List Char) : Option (List Char × List Char) :=
  match readKey cs with
  | some (k, '=' :: r) => some (k, r)
  | some (k, r) =>
    if k = "export".toList then
      match readKey r with
      | some (k, '=' :: r) => some (k, r)
      | _ => none
    else none
  | none => none

/-! ### Values -/

/-- Where a reader of a value stands. -/
inductive Place where
  | bare
  | single
  | double
  /-- After a backslash, outside or inside double quotes. -/
  | escape (quoted : Bool)
  /-- After the blank that ended a value. -/
  | ended
  /-- In a name after a dollar sign, and in one between braces; its last character comes first. -/
  | reference (quoted : Bool) (name : List Char)
  | braced (quoted : Bool) (name : List Char)

/-- Outside or inside double quotes. -/
def Place.inside (quoted : Bool) : Place := if quoted then .double else .bare

/-- The character that a backslash and `c` stand for. -/
def escaped? (c : Char) : Option Char :=
  if c = 'n' then some '\n'
  else if ['\\', '\'', '"', '$', ' '].contains c then some c
  else none

/-- Read a value to the end of its entry, with the values that names refer to. The character that
ends a name without braces stands for itself, be it a quote or a blank. -/
def readValue (known : String → String) : Place → List Char → Option (List Char)
  | .bare, [] | .ended, [] | .escape false, [] => some []
  | .reference false name, [] => some (known (String.ofList name.reverse)).toList
  | .single, [] | .double, [] | .escape true, [] | .reference true _, [] | .braced .., [] => none
  | .bare, c :: cs =>
    if c = '$' then readValue known (.reference false []) cs
    else if c = '\'' then readValue known .single cs
    else if c = '"' then readValue known .double cs
    else if c = '\\' then readValue known (.escape false) cs
    else if c = ' ' ∨ c = '\t' then readValue known .ended cs
    else (readValue known .bare cs).map (c :: ·)
  | .single, c :: cs =>
    if c = '\'' then readValue known .bare cs else (readValue known .single cs).map (c :: ·)
  | .double, c :: cs =>
    if c = '$' then readValue known (.reference true []) cs
    else if c = '"' then readValue known .bare cs
    else if c = '\\' then readValue known (.escape true) cs
    else (readValue known .double cs).map (c :: ·)
  | .escape quoted, c :: cs =>
    match escaped? c with
    | none => none
    | some e => (readValue known (.inside quoted) cs).map (e :: ·)
  | .ended, c :: cs =>
    if c = ' ' ∨ c = '\t' then readValue known .ended cs else if c = '#' then some [] else none
  | .reference quoted name, c :: cs =>
    let value := (known (String.ofList name.reverse)).toList
    if Text.isAlphanumeric c then readValue known (.reference quoted (c :: name)) cs
    else if c = '\x7b' ∧ name = [] then readValue known (.braced quoted []) cs
    else if c = '$' then (readValue known (.reference quoted []) cs).map (value ++ ·)
    else (readValue known (.inside quoted) cs).map fun r => value ++ c :: r
  | .braced quoted name, c :: cs =>
    if c = '\x7d' then
      (readValue known (.inside quoted) cs).map
        ((known (String.ofList name.reverse)).toList ++ ·)
    else readValue known (.braced quoted (c :: name)) cs

/-- What an entry says. -/
inductive Entry where
  | nothing
  | assign (key value : String)
  deriving DecidableEq

/-- Read an entry. A comment in place of a value leaves it empty. -/
def readEntry (known : String → String) (cs : List Char) : Option Entry :=
  let cs := Text.trimChars cs
  if cs.isEmpty ∨ cs.head? = some '#' then some .nothing
  else do
    let (key, rest) ← readAssigned cs
    let rest := Text.trimStart rest
    let value ← if rest.head? = some '#' then some [] else readValue known .bare rest
    return .assign (String.ofList key) (String.ofList value)

/-! ### Files -/

/-- Look a key up in the environment and then among assignments. -/
def lookup (environment : String → Option String) (assigned : List (String × String))
    (key : String) : Option String :=
  (environment key).or (assigned.lookup key)

def readEntries (environment : String → Option String) (assigned : List (String × String)) :
    List (List Char) → List (String × String)
  | [] => assigned
  | cs :: rest =>
    match readEntry (fun name => (lookup environment assigned name).getD "") cs with
    | none => assigned
    | some .nothing => readEntries environment assigned rest
    | some (.assign key value) => readEntries environment (assigned ++ [(key, value)]) rest

/-- The assignments of a file in their order; a byte order mark at the beginning is passed over. -/
def parse (environment : String → Option String) (s : String) : List (String × String) :=
  let cs := match s.toList with
    | '\uFEFF' :: cs => cs
    | cs => cs
  readEntries environment [] (entries cs)

/-- Look a key up in the environment and then in a file. -/
def load (environment : String → Option String) (file : String) (key : String) : Option String :=
  lookup environment (parse environment file) key

end TenantGate.EnvFile
