import TenantGate.Number.Numeral
import TenantGate.Number.Binary64
import TenantGate.Dict
/-!
# JSON values

An object is the list of its fields as it is written out. Values that come from a text or from a
row have their fields in key order without repetition (`Json.ofDict`); an answer lists them in the
order of its own layout.
-/

namespace TenantGate

/-- A JSON number: an integer from `-2 ^ 63` to `2 ^ 64 - 1`, or a finite double. -/
inductive JsonNumber where
  | integer (i : Int)
  | double (x : Binary64)
  deriving DecidableEq, Repr

namespace JsonNumber

/-- The value of an integer literal: a double where the two integer words do not reach. -/
def ofInt (i : Int) : JsonNumber :=
  if Number.int64Least ≤ i ∧ i < UInt64.size then .integer i else .double (.ofInt i)

/-- The number as a signed word, if it is an integer within its range. -/
def toInt64? : JsonNumber → Option Int64
  | .integer i => Number.toInt64? i
  | .double _ => none

def toBinary64 : JsonNumber → Binary64
  | .integer i => .ofInt i
  | .double x => x

end JsonNumber

/-- A JSON value. -/
inductive Json where
  | null
  | bool (b : Bool)
  | number (n : JsonNumber)
  | string (s : String)
  | array (items : List Json)
  | object (fields : List (String × Json))
  deriving Inhabited

namespace Json

def ofInt64 (i : Int64) : Json := .number (.integer i.toInt)

/-- The object of a dictionary, its fields in key order. -/
def ofDict (d : Dict Json) : Json := .object d.entries

/-- The object of the dictionary of a list of fields. -/
def ofFields (fields : List (String × Json)) : Json := ofDict (.ofList fields)

/-- Whether the value is `null`. -/
def isNull : Json → Bool
  | .null => true
  | _ => false

/-! ### Equality -/

mutual

/-- Equality of values, field by field. -/
def decEq : (a b : Json) → Decidable (a = b)
  | .null, .null => isTrue rfl
  | .bool a, .bool b => if h : a = b then isTrue (by rw [h]) else isFalse (by simpa using h)
  | .number a, .number b => if h : a = b then isTrue (by rw [h]) else isFalse (by simpa using h)
  | .string a, .string b => if h : a = b then isTrue (by rw [h]) else isFalse (by simpa using h)
  | .array a, .array b =>
    match decEqItems a b with
    | isTrue h => isTrue (by rw [h])
    | isFalse h => isFalse (by simpa using h)
  | .object a, .object b =>
    match decEqFields a b with
    | isTrue h => isTrue (by rw [h])
    | isFalse h => isFalse (by simpa using h)
  | .null, .bool _ | .null, .number _ | .null, .string _ | .null, .array _ | .null, .object _
  | .bool _, .null | .bool _, .number _ | .bool _, .string _ | .bool _, .array _
  | .bool _, .object _ | .number _, .null | .number _, .bool _ | .number _, .string _
  | .number _, .array _ | .number _, .object _ | .string _, .null | .string _, .bool _
  | .string _, .number _ | .string _, .array _ | .string _, .object _ | .array _, .null
  | .array _, .bool _ | .array _, .number _ | .array _, .string _ | .array _, .object _
  | .object _, .null | .object _, .bool _ | .object _, .number _ | .object _, .string _
  | .object _, .array _ => isFalse (by simp)

def decEqItems : (a b : List Json) → Decidable (a = b)
  | [], [] => isTrue rfl
  | [], _ :: _ | _ :: _, [] => isFalse (by simp)
  | a :: r, b :: s =>
    match decEq a b, decEqItems r s with
    | isTrue h, isTrue h' => isTrue (by rw [h, h'])
    | isFalse h, _ => isFalse (by simp [h])
    | _, isFalse h => isFalse (by simp [h])

def decEqFields : (a b : List (String × Json)) → Decidable (a = b)
  | [], [] => isTrue rfl
  | [], _ :: _ | _ :: _, [] => isFalse (by simp)
  | (k, a) :: r, (l, b) :: s =>
    if hk : k = l then
      match decEq a b, decEqFields r s with
      | isTrue h, isTrue h' => isTrue (by rw [hk, h, h'])
      | isFalse h, _ => isFalse (by simp [h])
      | _, isFalse h => isFalse (by simp [h])
    else isFalse (by simp [hk])

end

instance : DecidableEq Json := decEq

end Json
end TenantGate
