import TenantGate.Number.Decimal
import TenantGate.Json.Basic
/-!
# JSON text

`Json.text` is the compact rendering of a value. Characters beyond ASCII stand for themselves;
only the quote, the backslash and the control characters are escaped. A double always shows a
point or an exponent, so its text is never that of an integer.
-/

namespace TenantGate

/-- How doubles are laid out: a decimal whose point would fall after more than `positionalMost`
digits, or more than `leadingZerosMost` zeros behind it, is written with an exponent. -/
structure DoubleLayout where
  positionalMost : Int
  leadingZerosMost : Int

namespace Json

/-- Up to `10 ^ 16` and down to `10 ^ -5` a double is written out in full. -/
def doubleLayout : DoubleLayout := ⟨16, 4⟩

/-- Write a non-zero decimal with the digits `ds` and `pointAt` of them before the point. -/
def decimalChars (layout : DoubleLayout) (ds : List Char) (pointAt : Int) : List Char :=
  if 0 < pointAt ∧ pointAt ≤ layout.positionalMost then
    let n := pointAt.toNat
    let places := ds.drop n
    ds.take n ++ List.replicate (n - ds.length) '0' ++
      '.' :: (if places.isEmpty then ['0'] else places)
  else if pointAt ≤ 0 ∧ -pointAt ≤ layout.leadingZerosMost then
    '0' :: '.' :: (List.replicate (-pointAt).toNat '0' ++ ds)
  else
    let e := pointAt - 1
    let sign := if e < 0 then '-' else '+'
    let places := ds.drop 1
    ds.take 1 ++ (if places.isEmpty then [] else '.' :: places)
      ++ 'e' :: sign :: Number.natChars e.natAbs

/-- The text of a finite double: the shortest digits that read back. -/
def doubleChars (x : Binary64) : List Char :=
  let d := x.shortest
  let body :=
    if d.coefficient = 0 then ['0', '.', '0']
    else
      let ds := Number.natChars d.coefficient
      decimalChars doubleLayout ds (ds.length + d.exponent)
  if d.negative then '-' :: body else body

def numberChars : JsonNumber → List Char
  | .integer i => Number.intChars i
  | .double x => doubleChars x

/-- A hexadecimal digit, in lower case. -/
def hexDigit (n : Nat) : Char := Nat.digitChar n

def escapeChar (c : Char) : List Char :=
  if c = '"' then ['\\', '"']
  else if c = '\\' then ['\\', '\\']
  else if c.toNat = 0x08 then ['\\', 'b']
  else if c.toNat = 0x0C then ['\\', 'f']
  else if c = '\n' then ['\\', 'n']
  else if c = '\r' then ['\\', 'r']
  else if c = '\t' then ['\\', 't']
  else if c.toNat < 0x20 then
    ['\\', 'u', '0', '0', hexDigit (c.toNat / 16), hexDigit (c.toNat % 16)]
  else [c]

def stringChars (s : String) : List Char := '"' :: (s.toList.flatMap escapeChar ++ ['"'])

mutual

/-- The characters of the compact text of a value. -/
def chars : Json → List Char
  | .null => ['n', 'u', 'l', 'l']
  | .bool true => ['t', 'r', 'u', 'e']
  | .bool false => ['f', 'a', 'l', 's', 'e']
  | .number n => numberChars n
  | .string s => stringChars s
  | .array items => '[' :: (itemsChars items ++ [']'])
  | .object fields => '\x7b' :: (fieldsChars fields ++ ['\x7d'])

def itemsChars : List Json → List Char
  | [] => []
  | [v] => chars v
  | v :: w :: r => chars v ++ ',' :: itemsChars (w :: r)

def fieldsChars : List (String × Json) → List Char
  | [] => []
  | [(k, v)] => stringChars k ++ ':' :: chars v
  | (k, v) :: e :: r => stringChars k ++ ':' :: (chars v ++ ',' :: fieldsChars (e :: r))

end

def text (v : Json) : String := String.ofList v.chars

end Json
end TenantGate
