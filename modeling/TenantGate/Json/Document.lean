import TenantGate.Number.Decimal
import TenantGate.Json.Basic
/-!
# Reading JSON text

A `Document` is a JSON text as it is written: fields in their order and with repetition, and
numbers and strings that may have no value, because a number is too large for a double or a string
holds half of a surrogate pair. `Document.toJson?` is the value of a document; it exists if every
number and string has one and the containers are not nested too deep. A reader that skips a part
of a document never asks for the value of that part.
-/

namespace TenantGate

/-- A JSON text as written. -/
inductive Document where
  | null
  | bool (b : Bool)
  | number (value? : Option JsonNumber)
  | string (value? : Option String)
  | array (items : List Document)
  | object (fields : List (Option String × Document))
  deriving Inhabited

namespace Document

/-! ### Characters between values -/

/-- The four characters that may stand between tokens. -/
def isSpace (c : Char) : Bool := c = ' ' || c = '\n' || c = '\r' || c = '\t'

def skipSpace (cs : List Char) : List Char := cs.dropWhile isSpace

theorem length_skipSpace_le (cs : List Char) : (skipSpace cs).length ≤ cs.length :=
  (List.dropWhile_sublist _).length_le

/-- A proper suffix of a text that is being read. -/
abbrev Rest (cs : List Char) := { r : List Char // r.length < cs.length }

/-! ### Strings -/

def hexValue? (c : Char) : Option Nat :=
  let n := c.toNat
  if 0x30 ≤ n ∧ n ≤ 0x39 then some (n - 0x30)
  else if 0x41 ≤ n ∧ n ≤ 0x46 then some (n - 0x41 + 10)
  else if 0x61 ≤ n ∧ n ≤ 0x66 then some (n - 0x61 + 10)
  else none

def hexUnit? (a b c d : Char) : Option Nat := do
  return (((← hexValue? a) * 16 + (← hexValue? b)) * 16 + (← hexValue? c)) * 16 + (← hexValue? d)

/-- The character after a backslash stands for this one. -/
def escaped? : Char → Option Char
  | '"' => some '"'
  | '\\' => some '\\'
  | '/' => some '/'
  | 'b' => some (Char.ofNat 0x08)
  | 'f' => some (Char.ofNat 0x0C)
  | 'n' => some '\n'
  | 'r' => some '\r'
  | 't' => some '\t'
  | _ => none

/-- The low half of a surrogate pair at the beginning of a text, and what follows it. -/
def lowHalf? : List Char → Option (Nat × List Char)
  | '\\' :: 'u' :: a :: b :: c :: d :: r =>
    match hexUnit? a b c d with
    | some n => if 0xDC00 ≤ n ∧ n ≤ 0xDFFF then some (n, r) else none
    | none => none
  | _ => none

theorem length_lowHalf? {cs r : List Char} {n : Nat} (h : lowHalf? cs = some (n, r)) :
    r.length < cs.length := by
  unfold lowHalf? at h
  split at h
  · split at h
    · split at h
      · simp only [Option.some.injEq, Prod.mk.injEq] at h
        obtain ⟨-, rfl⟩ := h
        simp only [List.length_cons]
        omega
      · cases h
    · cases h
  · cases h

/-- Read a string's characters up to its closing quote; `none` stands for half a surrogate pair. -/
def readChars : (cs : List Char) → Option (List (Option Char) × Rest cs)
  | [] => none
  | '"' :: r => some ([], ⟨r, by simp⟩)
  | '\\' :: 'u' :: a :: b :: c :: d :: r =>
    match hexUnit? a b c d with
    | none => none
    | some n =>
      if 0xD800 ≤ n ∧ n ≤ 0xDBFF then
        match h : lowHalf? r with
        | some (m, r') =>
          have := length_lowHalf? h
          (readChars r').map fun (s, ⟨t, ht⟩) =>
            (some (Char.ofNat (0x10000 + (n - 0xD800) * 0x400 + (m - 0xDC00))) :: s,
              ⟨t, by simp only [List.length_cons]; omega⟩)
        | none =>
          (readChars r).map fun (s, ⟨t, ht⟩) =>
            (none :: s, ⟨t, by simp only [List.length_cons]; omega⟩)
      else
        let here := if 0xDC00 ≤ n ∧ n ≤ 0xDFFF then none else some (Char.ofNat n)
        (readChars r).map fun (s, ⟨t, ht⟩) =>
          (here :: s, ⟨t, by simp only [List.length_cons]; omega⟩)
  | '\\' :: c :: r =>
    match escaped? c with
    | none => none
    | some e =>
      (readChars r).map fun (s, ⟨t, ht⟩) =>
        (some e :: s, ⟨t, by simp only [List.length_cons]; omega⟩)
  | c :: r =>
    if c.toNat < 0x20 ∨ c = '\\' then none
    else (readChars r).map fun (s, ⟨t, ht⟩) =>
      (some c :: s, ⟨t, by simp only [List.length_cons]; omega⟩)
termination_by cs => cs.length
decreasing_by all_goals (simp only [List.length_cons] at *; omega)

/-- The text that a list of read characters makes, if all of them are characters. -/
def toText? (s : List (Option Char)) : Option String := (s.mapM id).map String.ofList

/-! ### Numbers -/

/-- The digits after a point: none without a point, at least one with it. -/
def readPlaces : List Char → Option (Option (List Char) × List Char)
  | '.' :: r =>
    let ds := r.takeWhile Char.isDigit
    if ds.isEmpty then none else some (some ds, r.dropWhile Char.isDigit)
  | r => some (none, r)

/-- An exponent: none without `e`, at least one digit with it. -/
def readExponent : List Char → Option (Option Int × List Char)
  | [] => some (none, [])
  | c :: r =>
    if c = 'e' ∨ c = 'E' then
      let (negative, r) := Decimal.readSign r
      let ds := r.takeWhile Char.isDigit
      if ds.isEmpty then none
      else
        let n : Int := Nat.ofDigitChars 10 ds 0
        some (some (if negative then -n else n), r.dropWhile Char.isDigit)
    else some (none, c :: r)

theorem length_readSign_le (cs : List Char) : (Decimal.readSign cs).2.length ≤ cs.length := by
  unfold Decimal.readSign
  split <;> simp

theorem length_readPlaces_le {cs r : List Char} {p : Option (List Char)}
    (h : readPlaces cs = some (p, r)) : r.length ≤ cs.length := by
  unfold readPlaces at h
  split at h
  · rename_i t
    have := (List.dropWhile_sublist Char.isDigit (l := t)).length_le
    dsimp only at h
    split at h
    · cases h
    · simp only [Option.some.injEq, Prod.mk.injEq] at h
      simp only [← h.2, List.length_cons]
      omega
  · simp only [Option.some.injEq, Prod.mk.injEq] at h
    simp [h.2]

theorem length_readExponent_le {cs r : List Char} {e : Option Int}
    (h : readExponent cs = some (e, r)) : r.length ≤ cs.length := by
  unfold readExponent at h
  split at h
  · simp only [Option.some.injEq, Prod.mk.injEq] at h
    simp [← h.2]
  · rename_i c t
    split at h
    · have h₁ := length_readSign_le t
      have h₂ := (List.dropWhile_sublist Char.isDigit (l := (Decimal.readSign t).2)).length_le
      dsimp only at h
      split at h
      · cases h
      · simp only [Option.some.injEq, Prod.mk.injEq] at h
        simp only [← h.2, List.length_cons]
        omega
    · simp only [Option.some.injEq, Prod.mk.injEq] at h
      simp [← h.2]

/-- The number that digits make after those of `n`, as long as a word of 64 bits holds it, and the
digits from the first one that does not fit. -/
def significand (n : Nat) : List Char → Nat × List Char
  | [] => (n, [])
  | c :: cs =>
    let m := Nat.ofDigitChars 10 [c] n
    if m < UInt64.size then significand m cs else (n, c :: cs)

/-- The value of a numeral. Without point and exponent it is an integer, except that minus zero and
what no word of 64 bits holds are doubles; `none` if the double would be infinite.

A double is the word of its first digits, scaled by a power of ten. Both the word and each step of
the scaling are rounded, so that it need not be the double nearest to the numeral. -/
def numberValue? (negative : Bool) (whole : List Char) (places : Option (List Char))
    (exponent : Option Int) : Option JsonNumber :=
  let (n, left) := significand 0 whole
  let i : Int := if negative then -(n : Int) else n
  if left.isEmpty ∧ places.isNone ∧ exponent.isNone ∧ ¬(negative ∧ n = 0)
      ∧ Number.int64Least ≤ i then
    some (.integer i)
  else
    -- Digits before the point that were left out count as zeros; those after it are dropped.
    let ds := places.getD []
    let (n, dropped) := significand n ds
    let e : Int := exponent.getD 0 + left.length - (ds.length - dropped.length : Nat)
    (Binary64.scale? (.ofRatio negative n 1) e).map .double

def readNumber (cs : List Char) : Option (Option JsonNumber × List Char) :=
  let (negative, r) := match cs with
    | '-' :: r => (true, r)
    | r => (false, r)
  let whole := r.takeWhile Char.isDigit
  let rest := r.dropWhile Char.isDigit
  if whole.isEmpty ∨ (whole.head? = some '0' ∧ 1 < whole.length) then none
  else do
    let (places, rest) ← readPlaces rest
    let (exponent, rest) ← readExponent rest
    return (numberValue? negative whole places exponent, rest)

theorem length_readNumber_lt {cs r : List Char} {v : Option JsonNumber}
    (h : readNumber cs = some (v, r)) : r.length < cs.length := by
  have key : ∀ (negative : Bool) (t : List Char), t.length ≤ cs.length →
      (if (t.takeWhile Char.isDigit).isEmpty ∨ ((t.takeWhile Char.isDigit).head? = some '0'
          ∧ 1 < (t.takeWhile Char.isDigit).length) then none
        else do
          let (places, rest) ← readPlaces (t.dropWhile Char.isDigit)
          let (exponent, rest) ← readExponent rest
          return (numberValue? negative (t.takeWhile Char.isDigit) places exponent, rest))
        = some (v, r) → r.length < cs.length := by
    intro negative t ht h
    split at h
    · cases h
    · rename_i hw
      have hsum := congrArg List.length
        (List.takeWhile_append_dropWhile (p := Char.isDigit) (l := t))
      rw [List.length_append] at hsum
      have hpos : 0 < (t.takeWhile Char.isDigit).length := by
        cases hl : t.takeWhile Char.isDigit with
        | nil => simp [hl] at hw
        | cons a l => simp
      obtain ⟨⟨p, r₁⟩, h₁, h⟩ := Option.bind_eq_some_iff.1 h
      obtain ⟨⟨e, r₂⟩, h₂, h⟩ := Option.bind_eq_some_iff.1 h
      simp only [Option.pure_def, Option.some.injEq, Prod.mk.injEq] at h
      have l₁ := length_readPlaces_le h₁
      have l₂ := length_readExponent_le h₂
      rw [← h.2]
      omega
  unfold readNumber at h
  split at h
  rename_i negative t heq
  refine key negative t ?_ h
  split at heq <;> cases heq <;> simp

/-! ### Values -/

def readWord : List Char → Option (Document × List Char)
  | 'n' :: 'u' :: 'l' :: 'l' :: r => some (.null, r)
  | 't' :: 'r' :: 'u' :: 'e' :: r => some (.bool true, r)
  | 'f' :: 'a' :: 'l' :: 's' :: 'e' :: r => some (.bool false, r)
  | _ => none

theorem length_readWord_lt {cs r : List Char} {d : Document} (h : readWord cs = some (d, r)) :
    r.length < cs.length := by
  unfold readWord at h
  split at h <;> simp at h <;> simp only [← h.2, List.length_cons] <;> omega

mutual

def readValue (cs : List Char) : Option (Document × Rest cs) :=
  match h : skipSpace cs with
  | [] => none
  | '"' :: r =>
    have hr : r.length < cs.length := by
      have := length_skipSpace_le cs; simp only [h, List.length_cons] at this; omega
    (readChars r).map fun (s, ⟨t, ht⟩) => (.string (toText? s), ⟨t, by omega⟩)
  | '[' :: r =>
    have hr : r.length < cs.length := by
      have := length_skipSpace_le cs; simp only [h, List.length_cons] at this; omega
    match h' : skipSpace r with
    | ']' :: t => some (.array [], ⟨t, by
        have := length_skipSpace_le r; simp only [h', List.length_cons] at this; omega⟩)
    | _ => (readItems r).map fun (items, ⟨t, ht⟩) => (.array items, ⟨t, by omega⟩)
  | '\x7b' :: r =>
    have hr : r.length < cs.length := by
      have := length_skipSpace_le cs; simp only [h, List.length_cons] at this; omega
    match h' : skipSpace r with
    | '\x7d' :: t => some (.object [], ⟨t, by
        have := length_skipSpace_le r; simp only [h', List.length_cons] at this; omega⟩)
    | _ => (readFields r).map fun (fields, ⟨t, ht⟩) => (.object fields, ⟨t, by omega⟩)
  | c :: r =>
    have hr : (c :: r).length ≤ cs.length := h ▸ length_skipSpace_le cs
    if c = '-' ∨ c.isDigit then
      match hn : readNumber (c :: r) with
      | some (n, t) => some (.number n, ⟨t, Nat.lt_of_lt_of_le (length_readNumber_lt hn) hr⟩)
      | none => none
    else
      match hw : readWord (c :: r) with
      | some (d, t) => some (d, ⟨t, Nat.lt_of_lt_of_le (length_readWord_lt hw) hr⟩)
      | none => none
termination_by (cs.length, 0)

/-- Read the items of an array up to its closing bracket. -/
def readItems (cs : List Char) : Option (List Document × Rest cs) :=
  match readValue cs with
  | none => none
  | some (v, ⟨r, hr⟩) =>
    match h : skipSpace r with
    | ',' :: t =>
      have ht : t.length < cs.length := by
        have := length_skipSpace_le r; simp only [h, List.length_cons] at this; omega
      (readItems t).map fun (vs, ⟨u, hu⟩) => (v :: vs, ⟨u, by omega⟩)
    | ']' :: t => some ([v], ⟨t, by
        have := length_skipSpace_le r; simp only [h, List.length_cons] at this; omega⟩)
    | _ => none
termination_by (cs.length, 1)

/-- Read the fields of an object up to its closing brace. -/
def readFields (cs : List Char) : Option (List (Option String × Document) × Rest cs) :=
  match h : skipSpace cs with
  | '"' :: r =>
    have hr : r.length < cs.length := by
      have := length_skipSpace_le cs; simp only [h, List.length_cons] at this; omega
    match readChars r with
    | none => none
    | some (k, ⟨t, ht⟩) =>
      match h' : skipSpace t with
      | ':' :: u =>
        have hu : u.length < cs.length := by
          have := length_skipSpace_le t; simp only [h', List.length_cons] at this; omega
        match readValue u with
        | none => none
        | some (v, ⟨w, hw⟩) =>
          match h'' : skipSpace w with
          | ',' :: x =>
            have hx : x.length < cs.length := by
              have := length_skipSpace_le w; simp only [h'', List.length_cons] at this; omega
            (readFields x).map fun (fs, ⟨y, hy⟩) => ((toText? k, v) :: fs, ⟨y, by omega⟩)
          | '\x7d' :: x => some ([(toText? k, v)], ⟨x, by
              have := length_skipSpace_le w; simp only [h'', List.length_cons] at this; omega⟩)
          | _ => none
      | _ => none
  | _ => none
termination_by (cs.length, 1)

end

/-- Read the value at the beginning of a text, whatever follows it. -/
def readFirst? (s : String) : Option Document := (readValue s.toList).map (·.1)

def read? (s : String) : Option Document :=
  match readValue s.toList with
  | some (v, ⟨r, _⟩) => if (skipSpace r).isEmpty then some v else none
  | none => none

/-! ### The value of a document -/

mutual

/-- The value of a document with at most `depth` containers inside one another; of the fields with
one key, the last one counts. -/
def toJson? (depth : Nat) : Document → Option Json
  | .null => some .null
  | .bool b => some (.bool b)
  | .number n => n.map .number
  | .string s => s.map .string
  | .array items => if depth = 0 then none else (itemsToJson? (depth - 1) items).map .array
  | .object fields => if depth = 0 then none else (fieldsToJson? (depth - 1) fields).map .ofFields

def itemsToJson? (depth : Nat) : List Document → Option (List Json)
  | [] => some []
  | d :: ds =>
    match toJson? depth d, itemsToJson? depth ds with
    | some v, some vs => some (v :: vs)
    | _, _ => none

/-- The values of a list of fields, in the order written. -/
def fieldsToJson? (depth : Nat) : List (Option String × Document) → Option (List (String × Json))
  | [] => some []
  | (k, d) :: ds =>
    match k, toJson? depth d, fieldsToJson? depth ds with
    | some k, some v, some vs => some ((k, v) :: vs)
    | _, _, _ => none

end

/-- How many containers a text may nest to have a value. -/
def depthLimit : Nat := 127

mutual

def ofJson : Json → Document
  | .null => .null
  | .bool b => .bool b
  | .number n => .number (some n)
  | .string s => .string (some s)
  | .array items => .array (ofItems items)
  | .object fields => .object (ofFields fields)

def ofItems : List Json → List Document
  | [] => []
  | v :: vs => ofJson v :: ofItems vs

def ofFields : List (String × Json) → List (Option String × Document)
  | [] => []
  | (k, v) :: vs => (some k, ofJson v) :: ofFields vs

end

end Document

/-- The value of a text that is one JSON value. -/
def Json.read? (s : String) : Option Json := (Document.read? s).bind (·.toJson? Document.depthLimit)

end TenantGate
