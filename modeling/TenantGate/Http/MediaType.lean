/-!
# Media types

The content type of a request decides whether its body is read as JSON: `application/json`, or a
subtype of `application` that ends in `+json`, with or without parameters and in any letter case.
-/

namespace TenantGate.Http.MediaType

def isTokenChar (c : Char) : Bool :=
  c.isAlphanum || ("!#$%&'*+-.^_`|~".toList.contains c)

/-- Where a reader of parameters stands. -/
inductive Place where
  /-- Before a name, after a semicolon and blanks. -/
  | beforeName
  | name
  | beforeValue
  | value
  /-- After an opening quote. -/
  | quoteOpened
  | quoted
  | afterQuote
  deriving DecidableEq

/-- A character that may stand in a quoted value. -/
def isQuotable (c : Char) : Bool := 0x20 ≤ c.toNat && c.toNat ≠ 0x7F

/-- The place after a character, if it may stand there. -/
def step : Place → Char → Option Place
  | .beforeName, c =>
    if c = ' ' then some .beforeName else if isTokenChar c then some .name else none
  | .name, c => if c = '=' then some .beforeValue else if isTokenChar c then some .name else none
  | .beforeValue, c =>
    if c = '"' then some .quoteOpened else if isTokenChar c then some .value else none
  | .value, c => if c = ';' then some .beforeName else if isTokenChar c then some .value else none
  | .quoteOpened, c => if isQuotable c then some .quoted else none
  | .quoted, c => if c = '"' then some .afterQuote else if isQuotable c then some .quoted else none
  | .afterQuote, c =>
    if c = ';' then some .beforeName else if c = ' ' then some .afterQuote else none

def mayEnd : Place → Bool
  | .beforeName | .beforeValue | .value | .afterQuote => true
  | .name | .quoteOpened | .quoted => false

def areParameters (p : Place) : List Char → Bool
  | [] => mayEnd p
  | c :: cs =>
    match step p c with
    | some p => areParameters p cs
    | none => false

/-- Type and subtype of a media type in lower case, if it is well formed. -/
def read? (s : String) : Option (List Char × List Char) :=
  let cs := s.toList
  let type := cs.takeWhile isTokenChar
  match cs.dropWhile isTokenChar with
  | '/' :: r =>
    let subtype := r.takeWhile isTokenChar
    let lower (cs : List Char) := cs.map Char.toLower
    if type.isEmpty then none
    else
      match r.dropWhile isTokenChar with
      | [] => some (lower type, lower subtype)
      | ';' :: ps =>
        if !subtype.isEmpty && areParameters .beforeName ps then some (lower type, lower subtype)
        else none
      | _ => none
  | _ => none

/-- The parts of a subtype before and after its last plus sign; a plus sign that comes first is
none. -/
def splitSuffix (subtype : List Char) : List Char × Option (List Char) :=
  let suffix := (subtype.reverse.takeWhile (· ≠ '+')).reverse
  let before := subtype.take (subtype.length - suffix.length - 1)
  if suffix.length < subtype.length ∧ before ≠ [] then (before, some suffix) else (subtype, none)

def isJson (s : String) : Bool :=
  match read? s with
  | some (type, subtype) =>
    let (base, suffix) := splitSuffix subtype
    type = "application".toList && (base = "json".toList || suffix = some "json".toList)
  | none => false

end TenantGate.Http.MediaType
